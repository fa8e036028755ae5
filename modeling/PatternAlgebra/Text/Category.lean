/-!
# General categories

The general category of every code point, as in version 16 of the Unicode character database.
`Category.runs` cuts the code space into runs of one category; `Category.ofChar` finds a
character's run by bisection.
-/
namespace PatternAlgebra

inductive Category where
  | upper | lower | title | modifierLetter | otherLetter
  | nonspacingMark | spacingMark | enclosingMark
  | decimalNumber | letterNumber | otherNumber
  | connector | dash | opening | closing | initialQuote | finalQuote | otherPunctuation
  | mathSymbol | currencySymbol | modifierSymbol | otherSymbol
  | space | lineSeparator | paragraphSeparator
  | control | format | surrogate | privateUse | unassigned
  deriving DecidableEq, Repr

namespace Category

set_option maxRecDepth 20000 in
/-- The runs in ascending order, each as 256 times its first code point plus the number of its
category in the order of the constructors. The numbers 30 and 31 mark runs in which upper and
lower case letters alternate, the first of them upper or lower case respectively. -/
def runs : Array Nat := #[
  0x019, 0x2016, 0x2111, 0x2413, 0x2511, 0x280d, 0x290e, 0x2a11, 0x2b12, 0x2c11, 0x2d0c, 0x2e11,
  0x3008, 0x3a11, 0x3c12, 0x3f11, 0x4100, 0x5b0d, 0x5c11, 0x5d0e, 0x5e14, 0x5f0b, 0x6014, 0x6101,
  0x7b0d, 0x7c12, 0x7d0e, 0x7e12, 0x7f19, 0xa016, 0xa111, 0xa213, 0xa615, 0xa711, 0xa814, 0xa915,
  0xaa04, 0xab0f, 0xac12, 0xad1a, 0xae15, 0xaf14, 0xb015, 0xb112, 0xb20a, 0xb414, 0xb501, 0xb611,
  0xb814, 0xb90a, 0xba04, 0xbb10, 0xbc0a, 0xbf11, 0xc000, 0xd712, 0xd800, 0xdf01, 0xf712, 0xf801,
  0x1001e, 0x13701, 0x1391e, 0x14801, 0x14a1e, 0x17800, 0x17a1f, 0x17e01, 0x18100, 0x1831f,
  0x18600, 0x18801, 0x18900, 0x18c01, 0x18e00, 0x19201, 0x19300, 0x19501, 0x19600, 0x19901,
  0x19c00, 0x19e01, 0x19f00, 0x1a11f, 0x1a600, 0x1a801, 0x1a900, 0x1aa01, 0x1ac00, 0x1ad01,
  0x1ae00, 0x1b001, 0x1b100, 0x1b41f, 0x1b700, 0x1b901, 0x1bb04, 0x1bc00, 0x1bd01, 0x1c004,
  0x1c400, 0x1c502, 0x1c601, 0x1c700, 0x1c802, 0x1c901, 0x1ca00, 0x1cb02, 0x1cc1f, 0x1dc01,
  0x1de1e, 0x1ef01, 0x1f100, 0x1f202, 0x1f31f, 0x1f600, 0x1f91f, 0x23301, 0x23a00, 0x23c01,
  0x23d00, 0x23f01, 0x24100, 0x24201, 0x24300, 0x2471f, 0x24f01, 0x29404, 0x29501, 0x2b003,
  0x2c214, 0x2c603, 0x2d214, 0x2e003, 0x2e514, 0x2ec03, 0x2ed14, 0x2ee03, 0x2ef14, 0x30005,
  0x3701e, 0x37403, 0x37514, 0x37600, 0x37701, 0x3781d, 0x37a03, 0x37b01, 0x37e11, 0x37f00,
  0x3801d, 0x38414, 0x38600, 0x38711, 0x38800, 0x38b1d, 0x38c00, 0x38d1d, 0x38e00, 0x39001,
  0x39100, 0x3a21d, 0x3a300, 0x3ac01, 0x3cf00, 0x3d001, 0x3d200, 0x3d501, 0x3d81e, 0x3ef01,
  0x3f400, 0x3f501, 0x3f612, 0x3f700, 0x3f801, 0x3f900, 0x3fb01, 0x3fd00, 0x43001, 0x4601e,
  0x48215, 0x48305, 0x48807, 0x48a1e, 0x4c000, 0x4c21f, 0x4ce01, 0x4d01e, 0x5301d, 0x53100,
  0x5571d, 0x55903, 0x55a11, 0x56001, 0x58911, 0x58a0c, 0x58b1d, 0x58d15, 0x58f13, 0x5901d,
  0x59105, 0x5be0c, 0x5bf05, 0x5c011, 0x5c105, 0x5c311, 0x5c405, 0x5c611, 0x5c705, 0x5c81d,
  0x5d004, 0x5eb1d, 0x5ef04, 0x5f311, 0x5f51d, 0x6001a, 0x60612, 0x60911, 0x60b13, 0x60c11,
  0x60e15, 0x61005, 0x61b11, 0x61c1a, 0x61d11, 0x62004, 0x64003, 0x64104, 0x64b05, 0x66008,
  0x66a11, 0x66e04, 0x67005, 0x67104, 0x6d411, 0x6d504, 0x6d605, 0x6dd1a, 0x6de15, 0x6df05,
  0x6e503, 0x6e705, 0x6e915, 0x6ea05, 0x6ee04, 0x6f008, 0x6fa04, 0x6fd15, 0x6ff04, 0x70011,
  0x70e1d, 0x70f1a, 0x71004, 0x71105, 0x71204, 0x73005, 0x74b1d, 0x74d04, 0x7a605, 0x7b104,
  0x7b21d, 0x7c008, 0x7ca04, 0x7eb05, 0x7f403, 0x7f615, 0x7f711, 0x7fa03, 0x7fb1d, 0x7fd05,
  0x7fe13, 0x80004, 0x81605, 0x81a03, 0x81b05, 0x82403, 0x82505, 0x82803, 0x82905, 0x82e1d,
  0x83011, 0x83f1d, 0x84004, 0x85905, 0x85c1d, 0x85e11, 0x85f1d, 0x86004, 0x86b1d, 0x87004,
  0x88814, 0x88904, 0x88f1d, 0x8901a, 0x8921d, 0x89705, 0x8a004, 0x8c903, 0x8ca05, 0x8e21a,
  0x8e305, 0x90306, 0x90404, 0x93a05, 0x93b06, 0x93c05, 0x93d04, 0x93e06, 0x94105, 0x94906,
  0x94d05, 0x94e06, 0x95004, 0x95105, 0x95804, 0x96205, 0x96411, 0x96608, 0x97011, 0x97103,
  0x97204, 0x98105, 0x98206, 0x9841d, 0x98504, 0x98d1d, 0x98f04, 0x9911d, 0x99304, 0x9a91d,
  0x9aa04, 0x9b11d, 0x9b204, 0x9b31d, 0x9b604, 0x9ba1d, 0x9bc05, 0x9bd04, 0x9be06, 0x9c105,
  0x9c51d, 0x9c706, 0x9c91d, 0x9cb06, 0x9cd05, 0x9ce04, 0x9cf1d, 0x9d706, 0x9d81d, 0x9dc04,
  0x9de1d, 0x9df04, 0x9e205, 0x9e41d, 0x9e608, 0x9f004, 0x9f213, 0x9f40a, 0x9fa15, 0x9fb13,
  0x9fc04, 0x9fd11, 0x9fe05, 0x9ff1d, 0xa0105, 0xa0306, 0xa041d, 0xa0504, 0xa0b1d, 0xa0f04,
  0xa111d, 0xa1304, 0xa291d, 0xa2a04, 0xa311d, 0xa3204, 0xa341d, 0xa3504, 0xa371d, 0xa3804,
  0xa3a1d, 0xa3c05, 0xa3d1d, 0xa3e06, 0xa4105, 0xa431d, 0xa4705, 0xa491d, 0xa4b05, 0xa4e1d,
  0xa5105, 0xa521d, 0xa5904, 0xa5d1d, 0xa5e04, 0xa5f1d, 0xa6608, 0xa7005, 0xa7204, 0xa7505,
  0xa7611, 0xa771d, 0xa8105, 0xa8306, 0xa841d, 0xa8504, 0xa8e1d, 0xa8f04, 0xa921d, 0xa9304,
  0xaa91d, 0xaaa04, 0xab11d, 0xab204, 0xab41d, 0xab504, 0xaba1d, 0xabc05, 0xabd04, 0xabe06,
  0xac105, 0xac61d, 0xac705, 0xac906, 0xaca1d, 0xacb06, 0xacd05, 0xace1d, 0xad004, 0xad11d,
  0xae004, 0xae205, 0xae41d, 0xae608, 0xaf011, 0xaf113, 0xaf21d, 0xaf904, 0xafa05, 0xb001d,
  0xb0105, 0xb0206, 0xb041d, 0xb0504, 0xb0d1d, 0xb0f04, 0xb111d, 0xb1304, 0xb291d, 0xb2a04,
  0xb311d, 0xb3204, 0xb341d, 0xb3504, 0xb3a1d, 0xb3c05, 0xb3d04, 0xb3e06, 0xb3f05, 0xb4006,
  0xb4105, 0xb451d, 0xb4706, 0xb491d, 0xb4b06, 0xb4d05, 0xb4e1d, 0xb5505, 0xb5706, 0xb581d,
  0xb5c04, 0xb5e1d, 0xb5f04, 0xb6205, 0xb641d, 0xb6608, 0xb7015, 0xb7104, 0xb720a, 0xb781d,
  0xb8205, 0xb8304, 0xb841d, 0xb8504, 0xb8b1d, 0xb8e04, 0xb911d, 0xb9204, 0xb961d, 0xb9904,
  0xb9b1d, 0xb9c04, 0xb9d1d, 0xb9e04, 0xba01d, 0xba304, 0xba51d, 0xba804, 0xbab1d, 0xbae04,
  0xbba1d, 0xbbe06, 0xbc005, 0xbc106, 0xbc31d, 0xbc606, 0xbc91d, 0xbca06, 0xbcd05, 0xbce1d,
  0xbd004, 0xbd11d, 0xbd706, 0xbd81d, 0xbe608, 0xbf00a, 0xbf315, 0xbf913, 0xbfa15, 0xbfb1d,
  0xc0005, 0xc0106, 0xc0405, 0xc0504, 0xc0d1d, 0xc0e04, 0xc111d, 0xc1204, 0xc291d, 0xc2a04,
  0xc3a1d, 0xc3c05, 0xc3d04, 0xc3e05, 0xc4106, 0xc451d, 0xc4605, 0xc491d, 0xc4a05, 0xc4e1d,
  0xc5505, 0xc571d, 0xc5804, 0xc5b1d, 0xc5d04, 0xc5e1d, 0xc6004, 0xc6205, 0xc641d, 0xc6608,
  0xc701d, 0xc7711, 0xc780a, 0xc7f15, 0xc8004, 0xc8105, 0xc8206, 0xc8411, 0xc8504, 0xc8d1d,
  0xc8e04, 0xc911d, 0xc9204, 0xca91d, 0xcaa04, 0xcb41d, 0xcb504, 0xcba1d, 0xcbc05, 0xcbd04,
  0xcbe06, 0xcbf05, 0xcc006, 0xcc51d, 0xcc605, 0xcc706, 0xcc91d, 0xcca06, 0xccc05, 0xcce1d,
  0xcd506, 0xcd71d, 0xcdd04, 0xcdf1d, 0xce004, 0xce205, 0xce41d, 0xce608, 0xcf01d, 0xcf104,
  0xcf306, 0xcf41d, 0xd0005, 0xd0206, 0xd0404, 0xd0d1d, 0xd0e04, 0xd111d, 0xd1204, 0xd3b05,
  0xd3d04, 0xd3e06, 0xd4105, 0xd451d, 0xd4606, 0xd491d, 0xd4a06, 0xd4d05, 0xd4e04, 0xd4f15,
  0xd501d, 0xd5404, 0xd5706, 0xd580a, 0xd5f04, 0xd6205, 0xd641d, 0xd6608, 0xd700a, 0xd7915,
  0xd7a04, 0xd801d, 0xd8105, 0xd8206, 0xd841d, 0xd8504, 0xd971d, 0xd9a04, 0xdb21d, 0xdb304,
  0xdbc1d, 0xdbd04, 0xdbe1d, 0xdc004, 0xdc71d, 0xdca05, 0xdcb1d, 0xdcf06, 0xdd205, 0xdd51d,
  0xdd605, 0xdd71d, 0xdd806, 0xde01d, 0xde608, 0xdf01d, 0xdf206, 0xdf411, 0xdf51d, 0xe0104,
  0xe3105, 0xe3204, 0xe3405, 0xe3b1d, 0xe3f13, 0xe4004, 0xe4603, 0xe4705, 0xe4f11, 0xe5008,
  0xe5a11, 0xe5c1d, 0xe8104, 0xe831d, 0xe8404, 0xe851d, 0xe8604, 0xe8b1d, 0xe8c04, 0xea41d,
  0xea504, 0xea61d, 0xea704, 0xeb105, 0xeb204, 0xeb405, 0xebd04, 0xebe1d, 0xec004, 0xec51d,
  0xec603, 0xec71d, 0xec805, 0xecf1d, 0xed008, 0xeda1d, 0xedc04, 0xee01d, 0xf0004, 0xf0115,
  0xf0411, 0xf1315, 0xf1411, 0xf1515, 0xf1805, 0xf1a15, 0xf2008, 0xf2a0a, 0xf3415, 0xf3505,
  0xf3615, 0xf3705, 0xf3815, 0xf3905, 0xf3a0d, 0xf3b0e, 0xf3c0d, 0xf3d0e, 0xf3e06, 0xf4004,
  0xf481d, 0xf4904, 0xf6d1d, 0xf7105, 0xf7f06, 0xf8005, 0xf8511, 0xf8605, 0xf8804, 0xf8d05,
  0xf981d, 0xf9905, 0xfbd1d, 0xfbe15, 0xfc605, 0xfc715, 0xfcd1d, 0xfce15, 0xfd011, 0xfd515,
  0xfd911, 0xfdb1d, 0x100004, 0x102b06, 0x102d05, 0x103106, 0x103205, 0x103806, 0x103905, 0x103b06,
  0x103d05, 0x103f04, 0x104008, 0x104a11, 0x105004, 0x105606, 0x105805, 0x105a04, 0x105e05,
  0x106104, 0x106206, 0x106504, 0x106706, 0x106e04, 0x107105, 0x107504, 0x108205, 0x108306,
  0x108505, 0x108706, 0x108d05, 0x108e04, 0x108f06, 0x109008, 0x109a06, 0x109d05, 0x109e15,
  0x10a000, 0x10c61d, 0x10c700, 0x10c81d, 0x10cd00, 0x10ce1d, 0x10d001, 0x10fb11, 0x10fc03,
  0x10fd01, 0x110004, 0x12491d, 0x124a04, 0x124e1d, 0x125004, 0x12571d, 0x125804, 0x12591d,
  0x125a04, 0x125e1d, 0x126004, 0x12891d, 0x128a04, 0x128e1d, 0x129004, 0x12b11d, 0x12b204,
  0x12b61d, 0x12b804, 0x12bf1d, 0x12c004, 0x12c11d, 0x12c204, 0x12c61d, 0x12c804, 0x12d71d,
  0x12d804, 0x13111d, 0x131204, 0x13161d, 0x131804, 0x135b1d, 0x135d05, 0x136011, 0x13690a,
  0x137d1d, 0x138004, 0x139015, 0x139a1d, 0x13a000, 0x13f61d, 0x13f801, 0x13fe1d, 0x14000c,
  0x140104, 0x166d15, 0x166e11, 0x166f04, 0x168016, 0x168104, 0x169b0d, 0x169c0e, 0x169d1d,
  0x16a004, 0x16eb11, 0x16ee09, 0x16f104, 0x16f91d, 0x170004, 0x171205, 0x171506, 0x17161d,
  0x171f04, 0x173205, 0x173406, 0x173511, 0x17371d, 0x174004, 0x175205, 0x17541d, 0x176004,
  0x176d1d, 0x176e04, 0x17711d, 0x177205, 0x17741d, 0x178004, 0x17b405, 0x17b606, 0x17b705,
  0x17be06, 0x17c605, 0x17c706, 0x17c905, 0x17d411, 0x17d703, 0x17d811, 0x17db13, 0x17dc04,
  0x17dd05, 0x17de1d, 0x17e008, 0x17ea1d, 0x17f00a, 0x17fa1d, 0x180011, 0x18060c, 0x180711,
  0x180b05, 0x180e1a, 0x180f05, 0x181008, 0x181a1d, 0x182004, 0x184303, 0x184404, 0x18791d,
  0x188004, 0x188505, 0x188704, 0x18a905, 0x18aa04, 0x18ab1d, 0x18b004, 0x18f61d, 0x190004,
  0x191f1d, 0x192005, 0x192306, 0x192705, 0x192906, 0x192c1d, 0x193006, 0x193205, 0x193306,
  0x193905, 0x193c1d, 0x194015, 0x19411d, 0x194411, 0x194608, 0x195004, 0x196e1d, 0x197004,
  0x19751d, 0x198004, 0x19ac1d, 0x19b004, 0x19ca1d, 0x19d008, 0x19da0a, 0x19db1d, 0x19de15,
  0x1a0004, 0x1a1705, 0x1a1906, 0x1a1b05, 0x1a1c1d, 0x1a1e11, 0x1a2004, 0x1a5506, 0x1a5605,
  0x1a5706, 0x1a5805, 0x1a5f1d, 0x1a6005, 0x1a6106, 0x1a6205, 0x1a6306, 0x1a6505, 0x1a6d06,
  0x1a7305, 0x1a7d1d, 0x1a7f05, 0x1a8008, 0x1a8a1d, 0x1a9008, 0x1a9a1d, 0x1aa011, 0x1aa703,
  0x1aa811, 0x1aae1d, 0x1ab005, 0x1abe07, 0x1abf05, 0x1acf1d, 0x1b0005, 0x1b0406, 0x1b0504,
  0x1b3405, 0x1b3506, 0x1b3605, 0x1b3b06, 0x1b3c05, 0x1b3d06, 0x1b4205, 0x1b4306, 0x1b4504,
  0x1b4d1d, 0x1b4e11, 0x1b5008, 0x1b5a11, 0x1b6115, 0x1b6b05, 0x1b7415, 0x1b7d11, 0x1b8005,
  0x1b8206, 0x1b8304, 0x1ba106, 0x1ba205, 0x1ba606, 0x1ba805, 0x1baa06, 0x1bab05, 0x1bae04,
  0x1bb008, 0x1bba04, 0x1be605, 0x1be706, 0x1be805, 0x1bea06, 0x1bed05, 0x1bee06, 0x1bef05,
  0x1bf206, 0x1bf41d, 0x1bfc11, 0x1c0004, 0x1c2406, 0x1c2c05, 0x1c3406, 0x1c3605, 0x1c381d,
  0x1c3b11, 0x1c4008, 0x1c4a1d, 0x1c4d04, 0x1c5008, 0x1c5a04, 0x1c7803, 0x1c7e11, 0x1c8001,
  0x1c8900, 0x1c8a01, 0x1c8b1d, 0x1c9000, 0x1cbb1d, 0x1cbd00, 0x1cc011, 0x1cc81d, 0x1cd005,
  0x1cd311, 0x1cd405, 0x1ce106, 0x1ce205, 0x1ce904, 0x1ced05, 0x1cee04, 0x1cf405, 0x1cf504,
  0x1cf706, 0x1cf805, 0x1cfa04, 0x1cfb1d, 0x1d0001, 0x1d2c03, 0x1d6b01, 0x1d7803, 0x1d7901,
  0x1d9b03, 0x1dc005, 0x1e001e, 0x1e9501, 0x1e9e1e, 0x1eff01, 0x1f0800, 0x1f1001, 0x1f161d,
  0x1f1800, 0x1f1e1d, 0x1f2001, 0x1f2800, 0x1f3001, 0x1f3800, 0x1f4001, 0x1f461d, 0x1f4800,
  0x1f4e1d, 0x1f5001, 0x1f581d, 0x1f5900, 0x1f5a1d, 0x1f5b00, 0x1f5c1d, 0x1f5d00, 0x1f5e1d,
  0x1f5f00, 0x1f6001, 0x1f6800, 0x1f7001, 0x1f7e1d, 0x1f8001, 0x1f8802, 0x1f9001, 0x1f9802,
  0x1fa001, 0x1fa802, 0x1fb001, 0x1fb51d, 0x1fb601, 0x1fb800, 0x1fbc02, 0x1fbd14, 0x1fbe01,
  0x1fbf14, 0x1fc201, 0x1fc51d, 0x1fc601, 0x1fc800, 0x1fcc02, 0x1fcd14, 0x1fd001, 0x1fd41d,
  0x1fd601, 0x1fd800, 0x1fdc1d, 0x1fdd14, 0x1fe001, 0x1fe800, 0x1fed14, 0x1ff01d, 0x1ff201,
  0x1ff51d, 0x1ff601, 0x1ff800, 0x1ffc02, 0x1ffd14, 0x1fff1d, 0x200016, 0x200b1a, 0x20100c,
  0x201611, 0x20180f, 0x201910, 0x201a0d, 0x201b0f, 0x201d10, 0x201e0d, 0x201f0f, 0x202011,
  0x202817, 0x202918, 0x202a1a, 0x202f16, 0x203011, 0x20390f, 0x203a10, 0x203b11, 0x203f0b,
  0x204111, 0x204412, 0x20450d, 0x20460e, 0x204711, 0x205212, 0x205311, 0x20540b, 0x205511,
  0x205f16, 0x20601a, 0x20651d, 0x20661a, 0x20700a, 0x207103, 0x20721d, 0x20740a, 0x207a12,
  0x207d0d, 0x207e0e, 0x207f03, 0x20800a, 0x208a12, 0x208d0d, 0x208e0e, 0x208f1d, 0x209003,
  0x209d1d, 0x20a013, 0x20c11d, 0x20d005, 0x20dd07, 0x20e105, 0x20e207, 0x20e505, 0x20f11d,
  0x210015, 0x210200, 0x210315, 0x210700, 0x210815, 0x210a01, 0x210b00, 0x210e01, 0x211000,
  0x211301, 0x211415, 0x211500, 0x211615, 0x211812, 0x211900, 0x211e15, 0x212400, 0x212515,
  0x212600, 0x212715, 0x212800, 0x212915, 0x212a00, 0x212e15, 0x212f01, 0x213000, 0x213401,
  0x213504, 0x213901, 0x213a15, 0x213c01, 0x213e00, 0x214012, 0x214500, 0x214601, 0x214a15,
  0x214b12, 0x214c15, 0x214e01, 0x214f15, 0x21500a, 0x216009, 0x218300, 0x218401, 0x218509,
  0x21890a, 0x218a15, 0x218c1d, 0x219012, 0x219515, 0x219a12, 0x219c15, 0x21a012, 0x21a115,
  0x21a312, 0x21a415, 0x21a612, 0x21a715, 0x21ae12, 0x21af15, 0x21ce12, 0x21d015, 0x21d212,
  0x21d315, 0x21d412, 0x21d515, 0x21f412, 0x230015, 0x23080d, 0x23090e, 0x230a0d, 0x230b0e,
  0x230c15, 0x232012, 0x232215, 0x23290d, 0x232a0e, 0x232b15, 0x237c12, 0x237d15, 0x239b12,
  0x23b415, 0x23dc12, 0x23e215, 0x242a1d, 0x244015, 0x244b1d, 0x24600a, 0x249c15, 0x24ea0a,
  0x250015, 0x25b712, 0x25b815, 0x25c112, 0x25c215, 0x25f812, 0x260015, 0x266f12, 0x267015,
  0x27680d, 0x27690e, 0x276a0d, 0x276b0e, 0x276c0d, 0x276d0e, 0x276e0d, 0x276f0e, 0x27700d,
  0x27710e, 0x27720d, 0x27730e, 0x27740d, 0x27750e, 0x27760a, 0x279415, 0x27c012, 0x27c50d,
  0x27c60e, 0x27c712, 0x27e60d, 0x27e70e, 0x27e80d, 0x27e90e, 0x27ea0d, 0x27eb0e, 0x27ec0d,
  0x27ed0e, 0x27ee0d, 0x27ef0e, 0x27f012, 0x280015, 0x290012, 0x29830d, 0x29840e, 0x29850d,
  0x29860e, 0x29870d, 0x29880e, 0x29890d, 0x298a0e, 0x298b0d, 0x298c0e, 0x298d0d, 0x298e0e,
  0x298f0d, 0x29900e, 0x29910d, 0x29920e, 0x29930d, 0x29940e, 0x29950d, 0x29960e, 0x29970d,
  0x29980e, 0x299912, 0x29d80d, 0x29d90e, 0x29da0d, 0x29db0e, 0x29dc12, 0x29fc0d, 0x29fd0e,
  0x29fe12, 0x2b0015, 0x2b3012, 0x2b4515, 0x2b4712, 0x2b4d15, 0x2b741d, 0x2b7615, 0x2b961d,
  0x2b9715, 0x2c0000, 0x2c3001, 0x2c6000, 0x2c6101, 0x2c6200, 0x2c6501, 0x2c671e, 0x2c6d00,
  0x2c7101, 0x2c7200, 0x2c7301, 0x2c7500, 0x2c7601, 0x2c7c03, 0x2c7e00, 0x2c811f, 0x2ce301,
  0x2ce515, 0x2ceb1e, 0x2cef05, 0x2cf200, 0x2cf301, 0x2cf41d, 0x2cf911, 0x2cfd0a, 0x2cfe11,
  0x2d0001, 0x2d261d, 0x2d2701, 0x2d281d, 0x2d2d01, 0x2d2e1d, 0x2d3004, 0x2d681d, 0x2d6f03,
  0x2d7011, 0x2d711d, 0x2d7f05, 0x2d8004, 0x2d971d, 0x2da004, 0x2da71d, 0x2da804, 0x2daf1d,
  0x2db004, 0x2db71d, 0x2db804, 0x2dbf1d, 0x2dc004, 0x2dc71d, 0x2dc804, 0x2dcf1d, 0x2dd004,
  0x2dd71d, 0x2dd804, 0x2ddf1d, 0x2de005, 0x2e0011, 0x2e020f, 0x2e0310, 0x2e040f, 0x2e0510,
  0x2e0611, 0x2e090f, 0x2e0a10, 0x2e0b11, 0x2e0c0f, 0x2e0d10, 0x2e0e11, 0x2e170c, 0x2e1811,
  0x2e1a0c, 0x2e1b11, 0x2e1c0f, 0x2e1d10, 0x2e1e11, 0x2e200f, 0x2e2110, 0x2e220d, 0x2e230e,
  0x2e240d, 0x2e250e, 0x2e260d, 0x2e270e, 0x2e280d, 0x2e290e, 0x2e2a11, 0x2e2f03, 0x2e3011,
  0x2e3a0c, 0x2e3c11, 0x2e400c, 0x2e4111, 0x2e420d, 0x2e4311, 0x2e5015, 0x2e5211, 0x2e550d,
  0x2e560e, 0x2e570d, 0x2e580e, 0x2e590d, 0x2e5a0e, 0x2e5b0d, 0x2e5c0e, 0x2e5d0c, 0x2e5e1d,
  0x2e8015, 0x2e9a1d, 0x2e9b15, 0x2ef41d, 0x2f0015, 0x2fd61d, 0x2ff015, 0x300016, 0x300111,
  0x300415, 0x300503, 0x300604, 0x300709, 0x30080d, 0x30090e, 0x300a0d, 0x300b0e, 0x300c0d,
  0x300d0e, 0x300e0d, 0x300f0e, 0x30100d, 0x30110e, 0x301215, 0x30140d, 0x30150e, 0x30160d,
  0x30170e, 0x30180d, 0x30190e, 0x301a0d, 0x301b0e, 0x301c0c, 0x301d0d, 0x301e0e, 0x302015,
  0x302109, 0x302a05, 0x302e06, 0x30300c, 0x303103, 0x303615, 0x303809, 0x303b03, 0x303c04,
  0x303d11, 0x303e15, 0x30401d, 0x304104, 0x30971d, 0x309905, 0x309b14, 0x309d03, 0x309f04,
  0x30a00c, 0x30a104, 0x30fb11, 0x30fc03, 0x30ff04, 0x31001d, 0x310504, 0x31301d, 0x313104,
  0x318f1d, 0x319015, 0x31920a, 0x319615, 0x31a004, 0x31c015, 0x31e61d, 0x31ef15, 0x31f004,
  0x320015, 0x321f1d, 0x32200a, 0x322a15, 0x32480a, 0x325015, 0x32510a, 0x326015, 0x32800a,
  0x328a15, 0x32b10a, 0x32c015, 0x340004, 0x4dc015, 0x4e0004, 0xa01503, 0xa01604, 0xa48d1d,
  0xa49015, 0xa4c71d, 0xa4d004, 0xa4f803, 0xa4fe11, 0xa50004, 0xa60c03, 0xa60d11, 0xa61004,
  0xa62008, 0xa62a04, 0xa62c1d, 0xa6401e, 0xa66e04, 0xa66f05, 0xa67007, 0xa67311, 0xa67405,
  0xa67e11, 0xa67f03, 0xa6801e, 0xa69c03, 0xa69e05, 0xa6a004, 0xa6e609, 0xa6f005, 0xa6f211,
  0xa6f81d, 0xa70014, 0xa71703, 0xa72014, 0xa7221e, 0xa72f01, 0xa7321e, 0xa77003, 0xa77101,
  0xa7791e, 0xa77d00, 0xa77f1f, 0xa78803, 0xa78914, 0xa78b1e, 0xa78f04, 0xa7901e, 0xa79301,
  0xa7961e, 0xa7aa00, 0xa7af01, 0xa7b000, 0xa7b51f, 0xa7c400, 0xa7c81f, 0xa7cb00, 0xa7cd01,
  0xa7ce1d, 0xa7d000, 0xa7d101, 0xa7d21d, 0xa7d301, 0xa7d41d, 0xa7d51f, 0xa7dd1d, 0xa7f203,
  0xa7f500, 0xa7f601, 0xa7f704, 0xa7f803, 0xa7fa01, 0xa7fb04, 0xa80205, 0xa80304, 0xa80605,
  0xa80704, 0xa80b05, 0xa80c04, 0xa82306, 0xa82505, 0xa82706, 0xa82815, 0xa82c05, 0xa82d1d,
  0xa8300a, 0xa83615, 0xa83813, 0xa83915, 0xa83a1d, 0xa84004, 0xa87411, 0xa8781d, 0xa88006,
  0xa88204, 0xa8b406, 0xa8c405, 0xa8c61d, 0xa8ce11, 0xa8d008, 0xa8da1d, 0xa8e005, 0xa8f204,
  0xa8f811, 0xa8fb04, 0xa8fc11, 0xa8fd04, 0xa8ff05, 0xa90008, 0xa90a04, 0xa92605, 0xa92e11,
  0xa93004, 0xa94705, 0xa95206, 0xa9541d, 0xa95f11, 0xa96004, 0xa97d1d, 0xa98005, 0xa98306,
  0xa98404, 0xa9b305, 0xa9b406, 0xa9b605, 0xa9ba06, 0xa9bc05, 0xa9be06, 0xa9c111, 0xa9ce1d,
  0xa9cf03, 0xa9d008, 0xa9da1d, 0xa9de11, 0xa9e004, 0xa9e505, 0xa9e603, 0xa9e704, 0xa9f008,
  0xa9fa04, 0xa9ff1d, 0xaa0004, 0xaa2905, 0xaa2f06, 0xaa3105, 0xaa3306, 0xaa3505, 0xaa371d,
  0xaa4004, 0xaa4305, 0xaa4404, 0xaa4c05, 0xaa4d06, 0xaa4e1d, 0xaa5008, 0xaa5a1d, 0xaa5c11,
  0xaa6004, 0xaa7003, 0xaa7104, 0xaa7715, 0xaa7a04, 0xaa7b06, 0xaa7c05, 0xaa7d06, 0xaa7e04,
  0xaab005, 0xaab104, 0xaab205, 0xaab504, 0xaab705, 0xaab904, 0xaabe05, 0xaac004, 0xaac105,
  0xaac204, 0xaac31d, 0xaadb04, 0xaadd03, 0xaade11, 0xaae004, 0xaaeb06, 0xaaec05, 0xaaee06,
  0xaaf011, 0xaaf204, 0xaaf303, 0xaaf506, 0xaaf605, 0xaaf71d, 0xab0104, 0xab071d, 0xab0904,
  0xab0f1d, 0xab1104, 0xab171d, 0xab2004, 0xab271d, 0xab2804, 0xab2f1d, 0xab3001, 0xab5b14,
  0xab5c03, 0xab6001, 0xab6903, 0xab6a14, 0xab6c1d, 0xab7001, 0xabc004, 0xabe306, 0xabe505,
  0xabe606, 0xabe805, 0xabe906, 0xabeb11, 0xabec06, 0xabed05, 0xabee1d, 0xabf008, 0xabfa1d,
  0xac0004, 0xd7a41d, 0xd7b004, 0xd7c71d, 0xd7cb04, 0xd7fc1d, 0xd8001b, 0xe0001c, 0xf90004,
  0xfa6e1d, 0xfa7004, 0xfada1d, 0xfb0001, 0xfb071d, 0xfb1301, 0xfb181d, 0xfb1d04, 0xfb1e05,
  0xfb1f04, 0xfb2912, 0xfb2a04, 0xfb371d, 0xfb3804, 0xfb3d1d, 0xfb3e04, 0xfb3f1d, 0xfb4004,
  0xfb421d, 0xfb4304, 0xfb451d, 0xfb4604, 0xfbb214, 0xfbc31d, 0xfbd304, 0xfd3e0e, 0xfd3f0d,
  0xfd4015, 0xfd5004, 0xfd901d, 0xfd9204, 0xfdc81d, 0xfdcf15, 0xfdd01d, 0xfdf004, 0xfdfc13,
  0xfdfd15, 0xfe0005, 0xfe1011, 0xfe170d, 0xfe180e, 0xfe1911, 0xfe1a1d, 0xfe2005, 0xfe3011,
  0xfe310c, 0xfe330b, 0xfe350d, 0xfe360e, 0xfe370d, 0xfe380e, 0xfe390d, 0xfe3a0e, 0xfe3b0d,
  0xfe3c0e, 0xfe3d0d, 0xfe3e0e, 0xfe3f0d, 0xfe400e, 0xfe410d, 0xfe420e, 0xfe430d, 0xfe440e,
  0xfe4511, 0xfe470d, 0xfe480e, 0xfe4911, 0xfe4d0b, 0xfe5011, 0xfe531d, 0xfe5411, 0xfe580c,
  0xfe590d, 0xfe5a0e, 0xfe5b0d, 0xfe5c0e, 0xfe5d0d, 0xfe5e0e, 0xfe5f11, 0xfe6212, 0xfe630c,
  0xfe6412, 0xfe671d, 0xfe6811, 0xfe6913, 0xfe6a11, 0xfe6c1d, 0xfe7004, 0xfe751d, 0xfe7604,
  0xfefd1d, 0xfeff1a, 0xff001d, 0xff0111, 0xff0413, 0xff0511, 0xff080d, 0xff090e, 0xff0a11,
  0xff0b12, 0xff0c11, 0xff0d0c, 0xff0e11, 0xff1008, 0xff1a11, 0xff1c12, 0xff1f11, 0xff2100,
  0xff3b0d, 0xff3c11, 0xff3d0e, 0xff3e14, 0xff3f0b, 0xff4014, 0xff4101, 0xff5b0d, 0xff5c12,
  0xff5d0e, 0xff5e12, 0xff5f0d, 0xff600e, 0xff6111, 0xff620d, 0xff630e, 0xff6411, 0xff6604,
  0xff7003, 0xff7104, 0xff9e03, 0xffa004, 0xffbf1d, 0xffc204, 0xffc81d, 0xffca04, 0xffd01d,
  0xffd204, 0xffd81d, 0xffda04, 0xffdd1d, 0xffe013, 0xffe212, 0xffe314, 0xffe415, 0xffe513,
  0xffe71d, 0xffe815, 0xffe912, 0xffed15, 0xffef1d, 0xfff91a, 0xfffc15, 0xfffe1d, 0x1000004,
  0x1000c1d, 0x1000d04, 0x100271d, 0x1002804, 0x1003b1d, 0x1003c04, 0x1003e1d, 0x1003f04,
  0x1004e1d, 0x1005004, 0x1005e1d, 0x1008004, 0x100fb1d, 0x1010011, 0x101031d, 0x101070a,
  0x101341d, 0x1013715, 0x1014009, 0x101750a, 0x1017915, 0x1018a0a, 0x1018c15, 0x1018f1d,
  0x1019015, 0x1019d1d, 0x101a015, 0x101a11d, 0x101d015, 0x101fd05, 0x101fe1d, 0x1028004,
  0x1029d1d, 0x102a004, 0x102d11d, 0x102e005, 0x102e10a, 0x102fc1d, 0x1030004, 0x103200a,
  0x103241d, 0x1032d04, 0x1034109, 0x1034204, 0x1034a09, 0x1034b1d, 0x1035004, 0x1037605,
  0x1037b1d, 0x1038004, 0x1039e1d, 0x1039f11, 0x103a004, 0x103c41d, 0x103c804, 0x103d011,
  0x103d109, 0x103d61d, 0x1040000, 0x1042801, 0x1045004, 0x1049e1d, 0x104a008, 0x104aa1d,
  0x104b000, 0x104d41d, 0x104d801, 0x104fc1d, 0x1050004, 0x105281d, 0x1053004, 0x105641d,
  0x1056f11, 0x1057000, 0x1057b1d, 0x1057c00, 0x1058b1d, 0x1058c00, 0x105931d, 0x1059400,
  0x105961d, 0x1059701, 0x105a21d, 0x105a301, 0x105b21d, 0x105b301, 0x105ba1d, 0x105bb01,
  0x105bd1d, 0x105c004, 0x105f41d, 0x1060004, 0x107371d, 0x1074004, 0x107561d, 0x1076004,
  0x107681d, 0x1078003, 0x107861d, 0x1078703, 0x107b11d, 0x107b203, 0x107bb1d, 0x1080004,
  0x108061d, 0x1080804, 0x108091d, 0x1080a04, 0x108361d, 0x1083704, 0x108391d, 0x1083c04,
  0x1083d1d, 0x1083f04, 0x108561d, 0x1085711, 0x108580a, 0x1086004, 0x1087715, 0x108790a,
  0x1088004, 0x1089f1d, 0x108a70a, 0x108b01d, 0x108e004, 0x108f31d, 0x108f404, 0x108f61d,
  0x108fb0a, 0x1090004, 0x109160a, 0x1091c1d, 0x1091f11, 0x1092004, 0x1093a1d, 0x1093f11,
  0x109401d, 0x1098004, 0x109b81d, 0x109bc0a, 0x109be04, 0x109c00a, 0x109d01d, 0x109d20a,
  0x10a0004, 0x10a0105, 0x10a041d, 0x10a0505, 0x10a071d, 0x10a0c05, 0x10a1004, 0x10a141d,
  0x10a1504, 0x10a181d, 0x10a1904, 0x10a361d, 0x10a3805, 0x10a3b1d, 0x10a3f05, 0x10a400a,
  0x10a491d, 0x10a5011, 0x10a591d, 0x10a6004, 0x10a7d0a, 0x10a7f11, 0x10a8004, 0x10a9d0a,
  0x10aa01d, 0x10ac004, 0x10ac815, 0x10ac904, 0x10ae505, 0x10ae71d, 0x10aeb0a, 0x10af011,
  0x10af71d, 0x10b0004, 0x10b361d, 0x10b3911, 0x10b4004, 0x10b561d, 0x10b580a, 0x10b6004,
  0x10b731d, 0x10b780a, 0x10b8004, 0x10b921d, 0x10b9911, 0x10b9d1d, 0x10ba90a, 0x10bb01d,
  0x10c0004, 0x10c491d, 0x10c8000, 0x10cb31d, 0x10cc001, 0x10cf31d, 0x10cfa0a, 0x10d0004,
  0x10d2405, 0x10d281d, 0x10d3008, 0x10d3a1d, 0x10d4008, 0x10d4a04, 0x10d4e03, 0x10d4f04,
  0x10d5000, 0x10d661d, 0x10d6905, 0x10d6e0c, 0x10d6f03, 0x10d7001, 0x10d861d, 0x10d8e12,
  0x10d901d, 0x10e600a, 0x10e7f1d, 0x10e8004, 0x10eaa1d, 0x10eab05, 0x10ead0c, 0x10eae1d,
  0x10eb004, 0x10eb21d, 0x10ec204, 0x10ec51d, 0x10efc05, 0x10f0004, 0x10f1d0a, 0x10f2704,
  0x10f281d, 0x10f3004, 0x10f4605, 0x10f510a, 0x10f5511, 0x10f5a1d, 0x10f7004, 0x10f8205,
  0x10f8611, 0x10f8a1d, 0x10fb004, 0x10fc50a, 0x10fcc1d, 0x10fe004, 0x10ff71d, 0x1100006,
  0x1100105, 0x1100206, 0x1100304, 0x1103805, 0x1104711, 0x1104e1d, 0x110520a, 0x1106608,
  0x1107005, 0x1107104, 0x1107305, 0x1107504, 0x110761d, 0x1107f05, 0x1108206, 0x1108304,
  0x110b006, 0x110b305, 0x110b706, 0x110b905, 0x110bb11, 0x110bd1a, 0x110be11, 0x110c205,
  0x110c31d, 0x110cd1a, 0x110ce1d, 0x110d004, 0x110e91d, 0x110f008, 0x110fa1d, 0x1110005,
  0x1110304, 0x1112705, 0x1112c06, 0x1112d05, 0x111351d, 0x1113608, 0x1114011, 0x1114404,
  0x1114506, 0x1114704, 0x111481d, 0x1115004, 0x1117305, 0x1117411, 0x1117604, 0x111771d,
  0x1118005, 0x1118206, 0x1118304, 0x111b306, 0x111b605, 0x111bf06, 0x111c104, 0x111c511,
  0x111c905, 0x111cd11, 0x111ce06, 0x111cf05, 0x111d008, 0x111da04, 0x111db11, 0x111dc04,
  0x111dd11, 0x111e01d, 0x111e10a, 0x111f51d, 0x1120004, 0x112121d, 0x1121304, 0x1122c06,
  0x1122f05, 0x1123206, 0x1123405, 0x1123506, 0x1123605, 0x1123811, 0x1123e05, 0x1123f04,
  0x1124105, 0x112421d, 0x1128004, 0x112871d, 0x1128804, 0x112891d, 0x1128a04, 0x1128e1d,
  0x1128f04, 0x1129e1d, 0x1129f04, 0x112a911, 0x112aa1d, 0x112b004, 0x112df05, 0x112e006,
  0x112e305, 0x112eb1d, 0x112f008, 0x112fa1d, 0x1130005, 0x1130206, 0x113041d, 0x1130504,
  0x1130d1d, 0x1130f04, 0x113111d, 0x1131304, 0x113291d, 0x1132a04, 0x113311d, 0x1133204,
  0x113341d, 0x1133504, 0x1133a1d, 0x1133b05, 0x1133d04, 0x1133e06, 0x1134005, 0x1134106,
  0x113451d, 0x1134706, 0x113491d, 0x1134b06, 0x1134e1d, 0x1135004, 0x113511d, 0x1135706,
  0x113581d, 0x1135d04, 0x1136206, 0x113641d, 0x1136605, 0x1136d1d, 0x1137005, 0x113751d,
  0x1138004, 0x1138a1d, 0x1138b04, 0x1138c1d, 0x1138e04, 0x1138f1d, 0x1139004, 0x113b61d,
  0x113b704, 0x113b806, 0x113bb05, 0x113c11d, 0x113c206, 0x113c31d, 0x113c506, 0x113c61d,
  0x113c706, 0x113cb1d, 0x113cc06, 0x113ce05, 0x113cf06, 0x113d005, 0x113d104, 0x113d205,
  0x113d304, 0x113d411, 0x113d61d, 0x113d711, 0x113d91d, 0x113e105, 0x113e31d, 0x1140004,
  0x1143506, 0x1143805, 0x1144006, 0x1144205, 0x1144506, 0x1144605, 0x1144704, 0x1144b11,
  0x1145008, 0x1145a11, 0x1145c1d, 0x1145d11, 0x1145e05, 0x1145f04, 0x114621d, 0x1148004,
  0x114b006, 0x114b305, 0x114b906, 0x114ba05, 0x114bb06, 0x114bf05, 0x114c106, 0x114c205,
  0x114c404, 0x114c611, 0x114c704, 0x114c81d, 0x114d008, 0x114da1d, 0x1158004, 0x115af06,
  0x115b205, 0x115b61d, 0x115b806, 0x115bc05, 0x115be06, 0x115bf05, 0x115c111, 0x115d804,
  0x115dc05, 0x115de1d, 0x1160004, 0x1163006, 0x1163305, 0x1163b06, 0x1163d05, 0x1163e06,
  0x1163f05, 0x1164111, 0x1164404, 0x116451d, 0x1165008, 0x1165a1d, 0x1166011, 0x1166d1d,
  0x1168004, 0x116ab05, 0x116ac06, 0x116ad05, 0x116ae06, 0x116b005, 0x116b606, 0x116b705,
  0x116b804, 0x116b911, 0x116ba1d, 0x116c008, 0x116ca1d, 0x116d008, 0x116e41d, 0x1170004,
  0x1171b1d, 0x1171d05, 0x1171e06, 0x1171f05, 0x1172006, 0x1172205, 0x1172606, 0x1172705,
  0x1172c1d, 0x1173008, 0x1173a0a, 0x1173c11, 0x1173f15, 0x1174004, 0x117471d, 0x1180004,
  0x1182c06, 0x1182f05, 0x1183806, 0x1183905, 0x1183b11, 0x1183c1d, 0x118a000, 0x118c001,
  0x118e008, 0x118ea0a, 0x118f31d, 0x118ff04, 0x119071d, 0x1190904, 0x1190a1d, 0x1190c04,
  0x119141d, 0x1191504, 0x119171d, 0x1191804, 0x1193006, 0x119361d, 0x1193706, 0x119391d,
  0x1193b05, 0x1193d06, 0x1193e05, 0x1193f04, 0x1194006, 0x1194104, 0x1194206, 0x1194305,
  0x1194411, 0x119471d, 0x1195008, 0x1195a1d, 0x119a004, 0x119a81d, 0x119aa04, 0x119d106,
  0x119d405, 0x119d81d, 0x119da05, 0x119dc06, 0x119e005, 0x119e104, 0x119e211, 0x119e304,
  0x119e406, 0x119e51d, 0x11a0004, 0x11a0105, 0x11a0b04, 0x11a3305, 0x11a3906, 0x11a3a04,
  0x11a3b05, 0x11a3f11, 0x11a4705, 0x11a481d, 0x11a5004, 0x11a5105, 0x11a5706, 0x11a5905,
  0x11a5c04, 0x11a8a05, 0x11a9706, 0x11a9805, 0x11a9a11, 0x11a9d04, 0x11a9e11, 0x11aa31d,
  0x11ab004, 0x11af91d, 0x11b0011, 0x11b0a1d, 0x11bc004, 0x11be111, 0x11be21d, 0x11bf008,
  0x11bfa1d, 0x11c0004, 0x11c091d, 0x11c0a04, 0x11c2f06, 0x11c3005, 0x11c371d, 0x11c3805,
  0x11c3e06, 0x11c3f05, 0x11c4004, 0x11c4111, 0x11c461d, 0x11c5008, 0x11c5a0a, 0x11c6d1d,
  0x11c7011, 0x11c7204, 0x11c901d, 0x11c9205, 0x11ca81d, 0x11ca906, 0x11caa05, 0x11cb106,
  0x11cb205, 0x11cb406, 0x11cb505, 0x11cb71d, 0x11d0004, 0x11d071d, 0x11d0804, 0x11d0a1d,
  0x11d0b04, 0x11d3105, 0x11d371d, 0x11d3a05, 0x11d3b1d, 0x11d3c05, 0x11d3e1d, 0x11d3f05,
  0x11d4604, 0x11d4705, 0x11d481d, 0x11d5008, 0x11d5a1d, 0x11d6004, 0x11d661d, 0x11d6704,
  0x11d691d, 0x11d6a04, 0x11d8a06, 0x11d8f1d, 0x11d9005, 0x11d921d, 0x11d9306, 0x11d9505,
  0x11d9606, 0x11d9705, 0x11d9804, 0x11d991d, 0x11da008, 0x11daa1d, 0x11ee004, 0x11ef305,
  0x11ef506, 0x11ef711, 0x11ef91d, 0x11f0005, 0x11f0204, 0x11f0306, 0x11f0404, 0x11f111d,
  0x11f1204, 0x11f3406, 0x11f3605, 0x11f3b1d, 0x11f3e06, 0x11f4005, 0x11f4106, 0x11f4205,
  0x11f4311, 0x11f5008, 0x11f5a05, 0x11f5b1d, 0x11fb004, 0x11fb11d, 0x11fc00a, 0x11fd515,
  0x11fdd13, 0x11fe115, 0x11ff21d, 0x11fff11, 0x1200004, 0x1239a1d, 0x1240009, 0x1246f1d,
  0x1247011, 0x124751d, 0x1248004, 0x125441d, 0x12f9004, 0x12ff111, 0x12ff31d, 0x1300004,
  0x134301a, 0x1344005, 0x1344104, 0x1344705, 0x134561d, 0x1346004, 0x143fb1d, 0x1440004,
  0x146471d, 0x1610004, 0x1611e05, 0x1612a06, 0x1612d05, 0x1613008, 0x1613a1d, 0x1680004,
  0x16a391d, 0x16a4004, 0x16a5f1d, 0x16a6008, 0x16a6a1d, 0x16a6e11, 0x16a7004, 0x16abf1d,
  0x16ac008, 0x16aca1d, 0x16ad004, 0x16aee1d, 0x16af005, 0x16af511, 0x16af61d, 0x16b0004,
  0x16b3005, 0x16b3711, 0x16b3c15, 0x16b4003, 0x16b4411, 0x16b4515, 0x16b461d, 0x16b5008,
  0x16b5a1d, 0x16b5b0a, 0x16b621d, 0x16b6304, 0x16b781d, 0x16b7d04, 0x16b901d, 0x16d4003,
  0x16d4304, 0x16d6b03, 0x16d6d11, 0x16d7008, 0x16d7a1d, 0x16e4000, 0x16e6001, 0x16e800a,
  0x16e9711, 0x16e9b1d, 0x16f0004, 0x16f4b1d, 0x16f4f05, 0x16f5004, 0x16f5106, 0x16f881d,
  0x16f8f05, 0x16f9303, 0x16fa01d, 0x16fe003, 0x16fe211, 0x16fe303, 0x16fe405, 0x16fe51d,
  0x16ff006, 0x16ff21d, 0x1700004, 0x187f81d, 0x1880004, 0x18cd61d, 0x18cff04, 0x18d091d,
  0x1aff003, 0x1aff41d, 0x1aff503, 0x1affc1d, 0x1affd03, 0x1afff1d, 0x1b00004, 0x1b1231d,
  0x1b13204, 0x1b1331d, 0x1b15004, 0x1b1531d, 0x1b15504, 0x1b1561d, 0x1b16404, 0x1b1681d,
  0x1b17004, 0x1b2fc1d, 0x1bc0004, 0x1bc6b1d, 0x1bc7004, 0x1bc7d1d, 0x1bc8004, 0x1bc891d,
  0x1bc9004, 0x1bc9a1d, 0x1bc9c15, 0x1bc9d05, 0x1bc9f11, 0x1bca01a, 0x1bca41d, 0x1cc0015,
  0x1ccf008, 0x1ccfa1d, 0x1cd0015, 0x1ceb41d, 0x1cf0005, 0x1cf2e1d, 0x1cf3005, 0x1cf471d,
  0x1cf5015, 0x1cfc41d, 0x1d00015, 0x1d0f61d, 0x1d10015, 0x1d1271d, 0x1d12915, 0x1d16506,
  0x1d16705, 0x1d16a15, 0x1d16d06, 0x1d1731a, 0x1d17b05, 0x1d18315, 0x1d18505, 0x1d18c15,
  0x1d1aa05, 0x1d1ae15, 0x1d1eb1d, 0x1d20015, 0x1d24205, 0x1d24515, 0x1d2461d, 0x1d2c00a,
  0x1d2d41d, 0x1d2e00a, 0x1d2f41d, 0x1d30015, 0x1d3571d, 0x1d3600a, 0x1d3791d, 0x1d40000,
  0x1d41a01, 0x1d43400, 0x1d44e01, 0x1d4551d, 0x1d45601, 0x1d46800, 0x1d48201, 0x1d49c00,
  0x1d49d1d, 0x1d49e00, 0x1d4a01d, 0x1d4a200, 0x1d4a31d, 0x1d4a500, 0x1d4a71d, 0x1d4a900,
  0x1d4ad1d, 0x1d4ae00, 0x1d4b601, 0x1d4ba1d, 0x1d4bb01, 0x1d4bc1d, 0x1d4bd01, 0x1d4c41d,
  0x1d4c501, 0x1d4d000, 0x1d4ea01, 0x1d50400, 0x1d5061d, 0x1d50700, 0x1d50b1d, 0x1d50d00,
  0x1d5151d, 0x1d51600, 0x1d51d1d, 0x1d51e01, 0x1d53800, 0x1d53a1d, 0x1d53b00, 0x1d53f1d,
  0x1d54000, 0x1d5451d, 0x1d54600, 0x1d5471d, 0x1d54a00, 0x1d5511d, 0x1d55201, 0x1d56c00,
  0x1d58601, 0x1d5a000, 0x1d5ba01, 0x1d5d400, 0x1d5ee01, 0x1d60800, 0x1d62201, 0x1d63c00,
  0x1d65601, 0x1d67000, 0x1d68a01, 0x1d6a61d, 0x1d6a800, 0x1d6c112, 0x1d6c201, 0x1d6db12,
  0x1d6dc01, 0x1d6e200, 0x1d6fb12, 0x1d6fc01, 0x1d71512, 0x1d71601, 0x1d71c00, 0x1d73512,
  0x1d73601, 0x1d74f12, 0x1d75001, 0x1d75600, 0x1d76f12, 0x1d77001, 0x1d78912, 0x1d78a01,
  0x1d79000, 0x1d7a912, 0x1d7aa01, 0x1d7c312, 0x1d7c401, 0x1d7ca00, 0x1d7cb01, 0x1d7cc1d,
  0x1d7ce08, 0x1d80015, 0x1da0005, 0x1da3715, 0x1da3b05, 0x1da6d15, 0x1da7505, 0x1da7615,
  0x1da8405, 0x1da8515, 0x1da8711, 0x1da8c1d, 0x1da9b05, 0x1daa01d, 0x1daa105, 0x1dab01d,
  0x1df0001, 0x1df0a04, 0x1df0b01, 0x1df1f1d, 0x1df2501, 0x1df2b1d, 0x1e00005, 0x1e0071d,
  0x1e00805, 0x1e0191d, 0x1e01b05, 0x1e0221d, 0x1e02305, 0x1e0251d, 0x1e02605, 0x1e02b1d,
  0x1e03003, 0x1e06e1d, 0x1e08f05, 0x1e0901d, 0x1e10004, 0x1e12d1d, 0x1e13005, 0x1e13703,
  0x1e13e1d, 0x1e14008, 0x1e14a1d, 0x1e14e04, 0x1e14f15, 0x1e1501d, 0x1e29004, 0x1e2ae05,
  0x1e2af1d, 0x1e2c004, 0x1e2ec05, 0x1e2f008, 0x1e2fa1d, 0x1e2ff13, 0x1e3001d, 0x1e4d004,
  0x1e4eb03, 0x1e4ec05, 0x1e4f008, 0x1e4fa1d, 0x1e5d004, 0x1e5ee05, 0x1e5f004, 0x1e5f108,
  0x1e5fb1d, 0x1e5ff11, 0x1e6001d, 0x1e7e004, 0x1e7e71d, 0x1e7e804, 0x1e7ec1d, 0x1e7ed04,
  0x1e7ef1d, 0x1e7f004, 0x1e7ff1d, 0x1e80004, 0x1e8c51d, 0x1e8c70a, 0x1e8d005, 0x1e8d71d,
  0x1e90000, 0x1e92201, 0x1e94405, 0x1e94b03, 0x1e94c1d, 0x1e95008, 0x1e95a1d, 0x1e95e11,
  0x1e9601d, 0x1ec710a, 0x1ecac15, 0x1ecad0a, 0x1ecb013, 0x1ecb10a, 0x1ecb51d, 0x1ed010a,
  0x1ed2e15, 0x1ed2f0a, 0x1ed3e1d, 0x1ee0004, 0x1ee041d, 0x1ee0504, 0x1ee201d, 0x1ee2104,
  0x1ee231d, 0x1ee2404, 0x1ee251d, 0x1ee2704, 0x1ee281d, 0x1ee2904, 0x1ee331d, 0x1ee3404,
  0x1ee381d, 0x1ee3904, 0x1ee3a1d, 0x1ee3b04, 0x1ee3c1d, 0x1ee4204, 0x1ee431d, 0x1ee4704,
  0x1ee481d, 0x1ee4904, 0x1ee4a1d, 0x1ee4b04, 0x1ee4c1d, 0x1ee4d04, 0x1ee501d, 0x1ee5104,
  0x1ee531d, 0x1ee5404, 0x1ee551d, 0x1ee5704, 0x1ee581d, 0x1ee5904, 0x1ee5a1d, 0x1ee5b04,
  0x1ee5c1d, 0x1ee5d04, 0x1ee5e1d, 0x1ee5f04, 0x1ee601d, 0x1ee6104, 0x1ee631d, 0x1ee6404,
  0x1ee651d, 0x1ee6704, 0x1ee6b1d, 0x1ee6c04, 0x1ee731d, 0x1ee7404, 0x1ee781d, 0x1ee7904,
  0x1ee7d1d, 0x1ee7e04, 0x1ee7f1d, 0x1ee8004, 0x1ee8a1d, 0x1ee8b04, 0x1ee9c1d, 0x1eea104,
  0x1eea41d, 0x1eea504, 0x1eeaa1d, 0x1eeab04, 0x1eebc1d, 0x1eef012, 0x1eef21d, 0x1f00015,
  0x1f02c1d, 0x1f03015, 0x1f0941d, 0x1f0a015, 0x1f0af1d, 0x1f0b115, 0x1f0c01d, 0x1f0c115,
  0x1f0d01d, 0x1f0d115, 0x1f0f61d, 0x1f1000a, 0x1f10d15, 0x1f1ae1d, 0x1f1e615, 0x1f2031d,
  0x1f21015, 0x1f23c1d, 0x1f24015, 0x1f2491d, 0x1f25015, 0x1f2521d, 0x1f26015, 0x1f2661d,
  0x1f30015, 0x1f3fb14, 0x1f40015, 0x1f6d81d, 0x1f6dc15, 0x1f6ed1d, 0x1f6f015, 0x1f6fd1d,
  0x1f70015, 0x1f7771d, 0x1f77b15, 0x1f7da1d, 0x1f7e015, 0x1f7ec1d, 0x1f7f015, 0x1f7f11d,
  0x1f80015, 0x1f80c1d, 0x1f81015, 0x1f8481d, 0x1f85015, 0x1f85a1d, 0x1f86015, 0x1f8881d,
  0x1f89015, 0x1f8ae1d, 0x1f8b015, 0x1f8bc1d, 0x1f8c015, 0x1f8c21d, 0x1f90015, 0x1fa541d,
  0x1fa6015, 0x1fa6e1d, 0x1fa7015, 0x1fa7d1d, 0x1fa8015, 0x1fa8a1d, 0x1fa8f15, 0x1fac71d,
  0x1face15, 0x1fadd1d, 0x1fadf15, 0x1faea1d, 0x1faf015, 0x1faf91d, 0x1fb0015, 0x1fb931d,
  0x1fb9415, 0x1fbf008, 0x1fbfa1d, 0x2000004, 0x2a6e01d, 0x2a70004, 0x2b73a1d, 0x2b74004,
  0x2b81e1d, 0x2b82004, 0x2cea21d, 0x2ceb004, 0x2ebe11d, 0x2ebf004, 0x2ee5e1d, 0x2f80004,
  0x2fa1e1d, 0x3000004, 0x3134b1d, 0x3135004, 0x323b01d, 0xe00011a, 0xe00021d, 0xe00201a,
  0xe00801d, 0xe010005, 0xe01f01d, 0xf00001c, 0xffffe1d, 0x1000001c, 0x10fffe1d]

/-- The index of the run that holds `n`, when it lies in `lo ≤ i < hi`. -/
def runIndex (n : Nat) : (fuel lo hi : Nat) → Nat
  | 0, lo, _ => lo
  | fuel + 1, lo, hi =>
    if hi ≤ lo + 1 then lo
    else
      let mid := (lo + hi) / 2
      if runs.getD mid 0 / 256 ≤ n then runIndex n fuel mid hi else runIndex n fuel lo mid

/-- The categories in the order of their numbers in `runs`. -/
def numbered : Array Category :=
  #[upper, lower, title, modifierLetter, otherLetter, nonspacingMark, spacingMark, enclosingMark,
    decimalNumber, letterNumber, otherNumber, connector, dash, opening, closing, initialQuote,
    finalQuote, otherPunctuation, mathSymbol, currencySymbol, modifierSymbol, otherSymbol, space,
    lineSeparator, paragraphSeparator, control, format, surrogate, privateUse, unassigned]

def ofChar (c : Char) : Category :=
  let entry := runs.getD (runIndex c.toNat runs.size 0 runs.size) 0
  let offset := c.toNat - entry / 256
  match entry % 256 with
  | 30 => if offset % 2 = 0 then upper else lower
  | 31 => if offset % 2 = 0 then lower else upper
  | k => numbered.getD k unassigned

def isLetter : Category → Bool
  | upper | lower | title | modifierLetter | otherLetter => true
  | _ => false

def isCasedLetter : Category → Bool
  | upper | lower | title => true
  | _ => false

def isMark : Category → Bool
  | nonspacingMark | spacingMark | enclosingMark => true
  | _ => false

def isNumber : Category → Bool
  | decimalNumber | letterNumber | otherNumber => true
  | _ => false

def isPunctuation : Category → Bool
  | connector | dash | opening | closing | initialQuote | finalQuote | otherPunctuation => true
  | _ => false

def isSymbol : Category → Bool
  | mathSymbol | currencySymbol | modifierSymbol | otherSymbol => true
  | _ => false

def isSeparator : Category → Bool
  | space | lineSeparator | paragraphSeparator => true
  | _ => false

def isOther : Category → Bool
  | control | format | surrogate | privateUse | unassigned => true
  | _ => false

end Category

end PatternAlgebra
