import DotJs.Unicode.Runs

/-!
# Scripts

Each code point belongs to one script at most. The table lists the runs of code
points of one script in order: the number of the script, then the length of the run,
both as in other tables of runs. Number zero stands for no script, and the others
count the names from one on.
-/

namespace DotJs.Unicode

/-- The names of the scripts, in small letters and without low lines. The place of a script in this
list is its number in the table. -/
def scriptNames : List (List String) :=
  [["adlam", "adlm"], ["caucasianalbanian", "aghb"], ["ahom"], ["arabic", "arab"],
   ["imperialaramaic", "armi"], ["armenian", "armn"], ["avestan", "avst"], ["balinese", "bali"],
   ["bamum", "bamu"], ["bassavah", "bass"], ["batak", "batk"], ["bengali", "beng"],
   ["bhaiksuki", "bhks"], ["bopomofo", "bopo"], ["brahmi", "brah"], ["braille", "brai"],
   ["buginese", "bugi"], ["buhid", "buhd"], ["chakma", "cakm"], ["canadianaboriginal", "cans"],
   ["carian", "cari"], ["cham"], ["cherokee", "cher"], ["chorasmian", "chrs"],
   ["coptic", "copt", "qaac"], ["cyprominoan", "cpmn"], ["cypriot", "cprt"],
   ["cyrillic", "cyrl"], ["devanagari", "deva"], ["divesakuru", "diak"], ["dogra", "dogr"],
   ["deseret", "dsrt"], ["duployan", "dupl"], ["egyptianhieroglyphs", "egyp"],
   ["elbasan", "elba"], ["elymaic", "elym"], ["ethiopic", "ethi"], ["garay", "gara"],
   ["georgian", "geor"], ["glagolitic", "glag"], ["gunjalagondi", "gong"],
   ["masaramgondi", "gonm"], ["gothic", "goth"], ["grantha", "gran"], ["greek", "grek"],
   ["gujarati", "gujr"], ["gurungkhema", "gukh"], ["gurmukhi", "guru"], ["hangul", "hang"],
   ["han", "hani"], ["hanunoo", "hano"], ["hatran", "hatr"], ["hebrew", "hebr"],
   ["hiragana", "hira"], ["anatolianhieroglyphs", "hluw"], ["pahawhhmong", "hmng"],
   ["nyiakengpuachuehmong", "hmnp"], ["oldhungarian", "hung"], ["olditalic", "ital"],
   ["javanese", "java"], ["kayahli", "kali"], ["katakana", "kana"], ["kawi"],
   ["kharoshthi", "khar"], ["khmer", "khmr"], ["khojki", "khoj"], ["khitansmallscript", "kits"],
   ["kannada", "knda"], ["kiratrai", "krai"], ["kaithi", "kthi"], ["taitham", "lana"],
   ["lao", "laoo"], ["latin", "latn"], ["lepcha", "lepc"], ["limbu", "limb"],
   ["lineara", "lina"], ["linearb", "linb"], ["lisu"], ["lycian", "lyci"], ["lydian", "lydi"],
   ["mahajani", "mahj"], ["makasar", "maka"], ["mandaic", "mand"], ["manichaean", "mani"],
   ["marchen", "marc"], ["medefaidrin", "medf"], ["mendekikakui", "mend"],
   ["meroiticcursive", "merc"], ["meroitichieroglyphs", "mero"], ["miao", "plrd"],
   ["malayalam", "mlym"], ["modi"], ["mongolian", "mong"], ["mro", "mroo"],
   ["meeteimayek", "mtei"], ["multani", "mult"], ["myanmar", "mymr"], ["nagmundari", "nagm"],
   ["nandinagari", "nand"], ["oldnortharabian", "narb"], ["nabataean", "nbat"], ["newa"],
   ["nko", "nkoo"], ["nushu", "nshu"], ["ogham", "ogam"], ["olchiki", "olck"],
   ["olonal", "onao"], ["oldturkic", "orkh"], ["oriya", "orya"], ["osage", "osge"],
   ["osmanya", "osma"], ["olduyghur", "ougr"], ["palmyrene", "palm"], ["paucinhau", "pauc"],
   ["oldpermic", "perm"], ["phagspa", "phag"], ["inscriptionalpahlavi", "phli"],
   ["psalterpahlavi", "phlp"], ["phoenician", "phnx"], ["inscriptionalparthian", "prti"],
   ["inherited", "qaai", "zinh"], ["rejang", "rjng"], ["hanifirohingya", "rohg"],
   ["runic", "runr"], ["samaritan", "samr"], ["oldsoutharabian", "sarb"], ["saurashtra", "saur"],
   ["signwriting", "sgnw"], ["shavian", "shaw"], ["sharada", "shrd"], ["siddham", "sidd"],
   ["khudawadi", "sind"], ["sinhala", "sinh"], ["sogdian", "sogd"], ["oldsogdian", "sogo"],
   ["sorasompeng", "sora"], ["soyombo", "soyo"], ["sundanese", "sund"], ["sunuwar", "sunu"],
   ["sylotinagri", "sylo"], ["syriac", "syrc"], ["tagbanwa", "tagb"], ["takri", "takr"],
   ["taile", "tale"], ["newtailue", "talu"], ["tamil", "taml"], ["tangut", "tang"],
   ["taiviet", "tavt"], ["telugu", "telu"], ["tifinagh", "tfng"], ["tagalog", "tglg"],
   ["thaana", "thaa"], ["thai"], ["tibetan", "tibt"], ["tirhuta", "tirh"], ["tangsa", "tnsa"],
   ["todhri", "todr"], ["toto"], ["tulutigalari", "tutg"], ["ugaritic", "ugar"], ["vai", "vaii"],
   ["vithkuqi", "vith"], ["warangciti", "wara"], ["wancho", "wcho"], ["oldpersian", "xpeo"],
   ["cuneiform", "xsux"], ["yezidi", "yezi"], ["yi", "yiii"], ["zanabazarsquare", "zanb"],
   ["common", "zyyy"]]

/-- The runs of the scripts, each as the number of its script and its length. -/
def scriptTable : String := "
  bh0g5h3c6bh06h3c6bh0e7h31bh0b5h31bh05h3c3bh01h3d1bh01h3ee9bh0d9h35bh05b42bh0c0bc1bb2e54bh01e5302
  e54bh01e5104e51bh01e51bh01e5301e5101e5c001e5g3c5b4e5b6c8bd3bc12c8bg9016d8026f0026301f3f508f3c704
  f360b145bh0146bh014b4bh0143bh014d2bh014b0bc1b14c6bc114ba8bh014d4be1b401be1g002be134e8bf2f00b4ba3
  f902ba33bc5e602bc5b501i3c802i3101be1b1054d4054h5bh014c9c9i1bc14c9b5bh02c9c6b2401b2802b2202b2c201
  b2701b2103b2402b2902b2202b2408b2104b2201b2502b2c502e8301e8604e8202e8c201e8701e8201e8201e8202e810
  1e8504e8202e8303e8107e8401e8107e8b70b0e6301e6901e6301e6c201e6701e6201e6502e6b001e6301e6302e610b5
  e6402e6b207e6701ba9301ba9802ba9202ba9c201ba9701ba9201ba9502ba9902ba9202ba9307ba9304ba9201ba9502b
  a9b80b0be6201be6603be6301be6403be6201be6101be6203be6203be6303be6b204be6503be6301be6402be6106be61
  0b4be6c105be9b301be9301be9c301be9b602be9901be9301be9407be9201be9301be9202be9402be9b007be99g8b301
  g8301g8c301g8b001g8502g8901g8301g8407g8205g8301g8402g8b001g830b2j1b301j1301j1f101j1301j1604j1b60
  2j1c601bd3301bd3b803bd3c401bd3901bd3102bd3703bd3104bd3601bd3101bd3806bd3b002bd330b2bf3f804bh01bf
  3c80d7h2201h2101h2501h2c401h2101h2c302h2501h2101h2701h2b002h240d2bf4h201bf4d604bf4d901bf4d601bf4
  b501bf47bh04bf420d7j7bg0d9d801d9105d9102d9e3bh01d94e9cf6d7h301d7402d7701d7101d7402d7e101d7402d7d
  301d7402d7701d7101d7402d7b501d7f701d7402d7g702d7d203d7c606c3i602c3602c0ge0ba5c903bc4h5bh03bc4b10
  7bf1c209bf11f1c1bh0209b8c00b2be2b301be2301be220b2g5j402g5b006g5b006j32bh02j31bh01j3c006j3i907j3e
  305c0h00b0h5d101h5b204h5b204h5103h5b2be4d002be450b1be5e404be5c606be5b103be52g5d2b7c802b72h1g301h
  1c902h1b106h1b006h1b402bc1e602bc1b20c08h7018f0bd8g4b1f208b14h4f603h4b503h43ba6e8c8b105d9e302d93b
  d8808bc13bh01bc1b3bh01bc17bh04bc11bh06bc11bh03bc12bh0105h3d8e55c81h3e9e55h34e55h3b3c81h3h0e51bc1
  g4h3cf6e5c202e5602e5d802e5602e5801e5101e5101e5101e5d102e5f301e5b501e5b402e5601e5b902e5301e5901bh
  0b2bc12bh0i701bh0b1h3102bh0b1h31bh0b501h3b303bh0d40b4bc1d30b5bh0d8e51bh03h32bh06h31bh0c7h31bh0b7
  h3e1bh0304bh0gg60c2bh0b10c1bh0jc8b6cf6bh0gc802bh0bd8e0j6h3d2c5bb605c57d9d801d9105d9102bf0f607bf0
  20b4bf01d7c309d7701d7701d7701d7701d7701d7701d7701d7701c8d2bh0j40d4f0c601f0i90b2f0cb40c6bh0c1f01b
  h01f01bh0c5f09bc14e92bh08f04bh0401f4i602bc12bh02f43bh01g2j0bh02g2305b4e301e9j401bh0b6b4d2bh0d809
  bh01g2b6e9d101bh0g4e9d1bh0i1g2e7bh01g2i8bh0bg8f0gfj2bh0g4f0cajj2bg8bbg503bg8f509h8e8bg1da00c0c8j
  69i808bh0d4h3ba2bh03h3i20c0h3b5be0e503bh0b006bb6f608bc7h008bc7b206c9d2g1e6bh01g11bc2d60b1bc21e9c
  903g0h801bh01g0b004g02j7d101c2f509c2b402c2b002c24j7d2be8g70c4be85j5c30b0d7602d7602d7609d7701d770
  1h3e3bh01h39e51h34bh0204c3i0j5e602j5b006e9bbbh20b2e9c304e9e90ief2f0dg602f0ba60d8h370b26505f3c601
  f3501f3101f3201f3201f3b04ej4bh024be40d24b6bc1b6bh0b006bc1b4c82bh0d501bh0b901bh040445014bd502bh01
  01bh0d2h3c6bh06h3c6bh0b1g2b0bh01g2e5bh02e9d103e9602e9602e9602e9303bh0701bh070b0bh0502h7b201h7c60
  1h7b901h7201h7b502h7b40d4h7bc305bh0304bh0e503bh09e5h901bh0b303e510e7bh0e5bc110bd0h9c903c1e90b5bc
  11bh0c704f9d609f93e3c705bb5e305bg0d001bg01bg5d604bg5b40e2d2i0bc9e8bb1d002bb1b006bb0d604bb0d604d5
  e0082f20b121bg2b101bg2b501bg2701bg2201bg2b101bg2b501bg2701bg2203bf7f20b2h6db109h6c20b0h680c4h360
  1h3e201h390g9c7602c7101c7e401c7203c7102c715c20159bb3d2ba1d108ba190e8f2b901f2205f25bb9c803bb91i0c
  605i010g4i9d2i8c404i8c002i8e6g4401g4205g4801g4301g4c902g4304g4b007g4907bc6d2ba0d20d2i4d904i4b209
  7f40377bc0c202bc08bb7b905bb78bb8b807bb840b2bb870i0ba8h30f5f8f10b3f8f107f86bc3e008bc3b006d8d803d8
  c908d820ca84d101bg7e201bg7302bg720b64608490d346bd5e008bd4e20c2bb2c60d8c4c80c0d6c309b5h804b5d609b
  51h0g70b0h0102bd6c507bd6b006b9f301b9b808i1d909bd0j601bd3c00b1g6b801g6e70g2j6701j6101j6401j6b501j
  6b106bd2f905bd2b006e4401e4802e4202e4c201e4701e4201e4501bc11e4902e4202e4302e4106e4105e4702e4703e4
  50b1bf9b001bf9102bf9101bf9d801bf9b001bf9102bf9101bf9401bf9b001bf9208bf920c9ba2j201ba250d0bf5h208
  bf5b00bg6bd1f402bd1d80d4j2g90b1j2b006j3b30b9be3f806be3b006j7c00c83c7023b5043c30bi5d1g00ba0bg3i30
  b2bg31d0702d0102d0801d0201d0d001d0202d0b209d0b00h0j9802j9e602j9b10c7bg9h208bd7i30b3c0b6bb4f707c9
  b00i6bd080i8bd9d40b4bd9b006b3901b3e501b3b40b0b3c903i5d202i5c201i5b40h3e2701e2201e2e403e2101e2201
  e2908e2b006e1601e1201e1d701e1201e1607e1b00db0i2c507g3b701g3e103g3c90i5h810b5be6f00b3be61bg6jc20b
  a2bg6bb101bg650b1bg6bj60cgd6c6j90b3d4bbb00b0d4djj505f5fi30gie1e7f80bhd49fg907j4d101j4b004j42bf6h
  901bf6b006b0d002b060b0f6h00b0f6b001f6701f6c105f6b90ed2g9f80bj8i6j10ba1j0h504j0f707j0b70g4be71ba4
  1f02g710b1f0709be7gjb2g7eh00e1g71be7d10j7be7bb50iha1g2401g2701g2201g21f4ci7g230b5f410c9f4302g210
  b4g2408ba4dj60cda8d3ba705d3b303d3907d3b002d34bh040djd2bh0cf303bh0ed606bh0c30b5bh0b70b5bc1e602bc1
  c309bh0bb60g0bh0ce60b0bh0d902bh0g2bc13bh0b7bc18bh02bc17bh0d0bc14bh0g10c1e5h00bc2bh0c00b2bh0c00b2
  bh0i709bh0c50bd5bh0i501bh0h101bh0202bh0102bh0202bh0401bh0b201bh0101bh0701bh0g501bh0402bh0801bh07
  01bh0c801bh0401bh0501bh0103bh0701bh0de002bh0cj202bh0f0bc8gf20b5bc8501bc8b50bba4h3d106h360cb3e070
  1e0b702e0701e0201e0505c8g20d3c810bb2f7e503f7b402f7b004f720dc0bf8d10b7bg4f805bg410eg4j8e20cb4ba7e
  304ba710ei0d7701d7401d7201d7b501i7bj702i7b60e11h6041b004120hi5bh0g80h6bh0g10bj444014c70142014102
  41014b001440141014106410441014101410143014201410241014101410141014101420141024401470144014401410
  14b0014b705430145014b70f2420ch0bh0e404bh0ba00b2bh0b502bh0b501bh0b501bh0d70b0bh0bh40f6bh0c6f41bh0
  20b3bh0e404bh0907bh020b4bh060bf4bh0ji503bh0b703bh0b303bh0cb806bh0b204bh010b5bh0b204bh0f608bh0b00
  6bh0e008bh0d002bh0b204bh020b4bh090d9bh0de408bh0b402bh0b303bh0b103bh0f701bh0104bh0b602bh0b204bh0b
  007bh0be701bh0ba30bac9f0echc00d2f0edi202f0fhh402f0heh30b5f0gc20ceg6f0fe20bfa6f0ejd905f0iej00hahe
  g3bh010d0bh0j60bc8bc1ce00bjgbb2"

/-- Pairs numbers, and adds the lengths up to starts of runs. -/
def pairRuns (start : Nat) : List Nat → List (Nat × Nat)
  | number :: length :: rest => (start, number) :: pairRuns (start + length) rest
  | _ => []

/-- The runs of the scripts: the first code point of each, and the number of its script. -/
def scriptRuns : Array (Nat × Nat) :=
  (pairRuns 0 (decodeLengths 0 (tableText scriptTable))).toArray

/-- The number of the script of a code point, and zero if it has none. -/
def scriptOf (n : Nat) : Nat := (findRun scriptRuns n 0 scriptRuns.size).getD 0

/-- The number of the script with a given name, if there is one. `unknown` is the name for having
none. -/
def scriptNumber? (name : String) : Option Nat :=
  if name == "unknown" || name == "zzzz" then some 0
  else (scriptNames.findIdx? fun names => names.contains name).map (· + 1)

end DotJs.Unicode
