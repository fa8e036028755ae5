import Mathlib.Tactic.Lemma
import PatternAlgebra.Element.Outline

/-! The nodes of an element in the order in which its steps explain them, an element before what is
inside it. The steps are the lines of the nodes, each with the phrase of its node, and the captures
among the nodes count up from one. -/
namespace PatternAlgebra.Element

open Outline

mutual

/-- The nodes inside an element at a path, each with the path to it. -/
def inside : Element → (path : List Nat) → List (List Nat × Element)
  | repeated body _, path | grouping body, path | capture body, path | atomic body, path
  | lookAhead body, path | notAhead body, path | lookBehind body, path | notBehind body, path =>
    (onlyChild path, body) :: inside body (onlyChild path)
  | either es, path | sequence es, path => insideEach es path 1
  | _, _ => []

/-- The nodes of children, of which the first has the number `index`. -/
def insideEach : List Element → (path : List Nat) → (index : Nat) → List (List Nat × Element)
  | [], _, _ => []
  | e :: es, path, index =>
    ((path ++ [index], e) :: inside e (path ++ [index])) ++ insideEach es path (index + 1)

end

/-- The nodes of an element at a path, from the element itself on. -/
def nodesAt (e : Element) (path : List Nat) : List (List Nat × Element) :=
  (path, e) :: inside e path

def nodes (e : Element) : List (List Nat × Element) := nodesAt e []

def captureBody? : Element → Option Element
  | capture body => some body
  | _ => none

/-- What is captured at some nodes. -/
def captured (nodes : List (List Nat × Element)) : List Element :=
  nodes.filterMap fun (_, e) => captureBody? e

/-- The phrase of a node behind `captures` captures, with the colon in front of its children. -/
def phrase : Element → (captures : Nat) → Text
  | repeated _ times, _ => repeatPhrase times ++ [':']
  | capture _, n => "Match and capture #".toList ++ Text.decimal (n + 1) ++ [':']
  | either _, _ => "Match any one of:".toList
  | sequence _, _ | grouping _, _ => "Match sequence:".toList
  | atomic _, _ => "Match whole or none of pattern:".toList
  | lookAhead _, _ => "Look ahead pattern:".toList
  | notAhead _, _ => "Look ahead pattern not to match:".toList
  | lookBehind _, _ => "Look behind for pattern:".toList
  | notBehind _, _ => "Look behind for pattern not to match:".toList
  | e, n => (describe e [] n).1

/-- The lines of some nodes behind `captures` captures. -/
def outline : (captures : Nat) → List (List Nat × Element) → Text
  | _, [] => []
  | n, (path, e) :: nodes =>
    lineStart path ++ e.phrase n ++ outline (n + (captured [(path, e)]).length) nodes

lemma captured_cons (node : List Nat × Element) (nodes : List (List Nat × Element)) :
    captured (node :: nodes) = captured [node] ++ captured nodes := by
  rw [← List.singleton_append]
  exact List.filterMap_append

lemma captured_append (xs ys : List (List Nat × Element)) :
    captured (xs ++ ys) = captured xs ++ captured ys := List.filterMap_append

lemma getElem?_captured {before after : List (List Nat × Element)} {path : List Nat} {body : Element} :
    (captured (before ++ (path, .capture body) :: after))[(captured before).length]? = some body := by
  rw [captured_append, List.getElem?_append_right (Nat.le_refl _), Nat.sub_self]
  rfl

lemma outline_append (n : Nat) (xs ys : List (List Nat × Element)) :
    outline n (xs ++ ys) = outline n xs ++ outline (n + (captured xs).length) ys := by
  induction xs generalizing n with
  | nil => rfl
  | cons x xs ih =>
    rw [List.cons_append, outline, outline, ih, captured_cons x xs, List.length_append,
      ← Nat.add_assoc]
    simp only [List.append_assoc]

/-- A node with an only child. -/
lemma withOnlyChild_eq_outline {e body : Element} {path : List Nat} {n : Nat} {text : Text}
    (hnodes : inside e path = nodesAt body (onlyChild path)) (hphrase : e.phrase n = text ++ [':'])
    {m : Nat} (hm : m = n + (captured [(path, e)]).length)
    (hbody : lineStart (onlyChild path) ++ (describe body (onlyChild path) m).1 =
        outline m (nodesAt body (onlyChild path)) ∧
      (describe body (onlyChild path) m).2 = m + (captured (nodesAt body (onlyChild path))).length) :
    lineStart path ++ (withOnlyChild text path fun child => describe body child m).1 =
        outline n (nodesAt e path) ∧
      (withOnlyChild text path fun child => describe body child m).2 =
        n + (captured (nodesAt e path)).length := by
  obtain ⟨hlines, hcount⟩ := hbody
  have hall : nodesAt e path = (path, e) :: nodesAt body (onlyChild path) := by rw [nodesAt, hnodes]
  constructor
  · rw [hall, outline, hphrase, ← hm, ← hlines]
    simp [withOnlyChild]
  · rw [hall, captured_cons, List.length_append, ← Nat.add_assoc, ← hm, ← hcount]
    rfl

mutual

/-- The lines of an element are those of its nodes. -/
lemma describe_eq_outline (e : Element) (path : List Nat) (n : Nat) :
    lineStart path ++ (describe e path n).1 = outline n (nodesAt e path) ∧
      (describe e path n).2 = n + (captured (nodesAt e path)).length := by
  cases e with
  | repeated body _ | grouping body | atomic body | lookAhead body | notAhead body
  | lookBehind body | notBehind body =>
    exact withOnlyChild_eq_outline rfl rfl rfl (describe_eq_outline body (onlyChild path) n)
  | capture body =>
    exact withOnlyChild_eq_outline rfl rfl rfl (describe_eq_outline body (onlyChild path) (n + 1))
  | either es | sequence es =>
    obtain ⟨hlines, hcount⟩ := describeEach_eq_outline es path 1 n
    refine ⟨?_, hcount⟩
    rw [nodesAt, outline, List.append_assoc]
    exact congrArg (fun lines => lineStart path ++ (_ ++ lines)) hlines
  | _ => exact ⟨(List.append_nil _).symm, rfl⟩

lemma describeEach_eq_outline (es : List Element) (path : List Nat) (index n : Nat) :
    (describeEach es path index n).1 = outline n (insideEach es path index) ∧
      (describeEach es path index n).2 = n + (captured (insideEach es path index)).length := by
  cases es with
  | nil => exact ⟨rfl, rfl⟩
  | cons e es =>
    obtain ⟨hfirst, hcount⟩ := describe_eq_outline e (path ++ [index]) n
    obtain ⟨hrest, hcounts⟩ :=
      describeEach_eq_outline es path (index + 1) (describe e (path ++ [index]) n).2
    have hsplit : insideEach (e :: es) path index =
        nodesAt e (path ++ [index]) ++ insideEach es path (index + 1) := rfl
    rw [hsplit, outline_append, captured_append, List.length_append, ← hfirst, ← Nat.add_assoc,
      ← hcount, ← hrest, ← hcounts]
    exact ⟨rfl, rfl⟩

end

lemma steps_eq_outline (e : Element) : lineStart [] ++ e.steps = outline 0 e.nodes :=
  (describe_eq_outline e [] 0).1

end PatternAlgebra.Element
