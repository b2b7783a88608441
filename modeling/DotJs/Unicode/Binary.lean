import DotJs.Unicode.Runs

/-!
# Yes-or-no properties

The properties of code points that have no other value than yes and no. Each is
listed with its two names, in small letters and without low lines, and with its
runs.
-/

namespace DotJs.Unicode

/-- The names of the properties, long and short, and their run lengths. -/
def propertyTable : List (String × String × String) :=
  [("asciihexdigit", "ahex", "
    e8b076c66"),
   ("alphabetic", "alpha", "
    g5c66c6e71b01415c31d11ef84b2b457111i61c9b81224116113111c01i31bd98bg61d8216e1d9b4111212118c74
    4c9b15f617b4ba2184843b0321b6e8b3ba1c4d392415c42b9b9c57b15c417718e2b0b2376h61b6134b5b3b918222
    c217113438222211814215b22b014316422c217121212454222417411b76b1319131c217121539131231b54c1443
    18222c2171215382222924215b31b6216331432111232333b24533133161e0b3131c31b638131382131224c84181
    31c31b015381313825314b33b2b3131e1281313115475c26131b83c4191127861118b82b3f85761f1211151c4111
    b913251161b44d21g381d64b94b61d6g7f51125b6g4b042d811512e31dd3142711142e1142d3142711142b51f714
    2g7d7b6b6i6263gc02b71c65h53b17c0b1c1b2c0b2b31312b2f22b9b4141g7i97e35h0b0d11b249c3d025b1e44c6
    f4c84g32c0f01c32b13e9f21b518f1e224b0e41b1b4f5c23b0d62b15e323e141612315bj2b9d4b1ch8262d826281
    111111d12f31711331734264b35317bb61b31b6b3ba11412b01135611111141b1245541b7e1ib3f2bib4cc96432b
    2d811512f671b6c397171717171717171d2e71eg93c5975254i6631j0145e31j4b7d2e8b6fb2gfj2g4ccbf7g7e62
    cg93b6b02c0e7583bb3d992ba32i2c0c11d3c4f2b2g811e463113b0d35d5b3c93f11b2b51b6b6b051f59b4b8c33g
    91111c432b624b16262697171e31b46bc3c1bbbh2b2c34e9ief2dg62ba6d87b255b21b3151112121ba8d3dg3b8g4
    2f4e0b2bb651bd5d6c66c6b1i936262623d5b21c61b9121b52b4d4bc3g9f3cg7c93e9e7d2b3d05e35d02d64815e2
    bf8b8d64d64e08f2b2b11b517121b11b517123f2b2db19c2b08c461e219g96211e412312c3b0c39d1g5b912b0c2b
    0c66c6d8f662g441258131c9e2c93c9d581c8c7f4b0c2b0b9b3b8bb0h3f5f1b3f1b3e0d4c8315c3cf0e21232b66f
    033c9b018c2e2b8e6c1c7c39h0e35b0f791b3c5c3f1b748d5319g41492b0111d5b81d42164g2711141b51b07f7c3
    418222c2171215382222316157c8b011211d81b0112114123111e4g61314c03d0g62211bi4f427c56d4g31131f9f
    421h1c72b4c17bi5f7ba3g4d182128121d0122224j382e6261112c7f12b0b7h251b8h3ba38i8d3d191e51711e9d0
    2c21b4h37121e43112131122c46121d7121411c3e4cg0c39b71e133bb11h9jc2ba2bb1b7bj6cgd6j7b5bah2b76c5
    djj55fi3gie1e7bhe5fg97d1b7h9b7d0b8e8b64d1c15b9ed2e5cb1g4d2c52c5e4h54f77b7g4211b279hdi2e1d2j7
    bb5iha1417121cj1b51c9321b448dj6cda8ba75b3397b041fji5i51h1122122241b211171g51428171c814151137
    1de02c51c51d11c51d11c51d11c51d11c518bie4d166cb371b72712155g2d31bb2e5b07b61dc1d0b8e4ei4c8cc8d
    021ca7d11c282cc4714121b51bj7f9g83131bca441c71211211b0141111614111111312112111111111121124171
    414111b01b753151b7gc8c66c66c6dha2echc0d2edi22fhh42heh3b5gc2ceg6fe2bfa6ejd95iej0"),
   ("bidicontrol", "bidic", "
    bfg41gge12c65f54"),
   ("bidimirrored", "bidim", "
    e02b8111c8111c9111e51b51dhb04bii52ceg02b02f42b42bh71bj243631323414111149511b8549211181d22451
    922b95295224c42b684c0272bai5b4h4124121354533b4ea3c2261b4817631451225411322b0622b2b9142111211
    45263c42b124412224e3281e051113553413511cf61fb543212b422b0e38ec7b028fchj7652bg22b8111c8111c91
    111212ffbf91f71f71f71f71"),
   ("caseignorable", "ci", "
    d9161b11d5111h1141114122fa3bj242419211cf17ca7151e9e511121211e41b16b0b111d51b0c1b61ba181b014d
    3111d0c7j1b1f8b14121c4c4e33e417259e1f8f5111484137b02b31b51f814481c02c6122f7142422331d0231b12
    f71451241c02c2611f8121148172b12d01g11b21f0131f5113531472b12c91f81216152c02c82f724481c02c91h2
    17311j0127b19j81299117h32c711111f5b415125b11d691ba24161222c5243b64b312261b51j41ga83je63c92d0
    2d02g4217812b13151e55f11g52d41bb83429163cb9221f81171111286b021d918e62b2c04e81151151e09b22d24
    2213f61123113f8822g46i231b317416132f0g3b31d4ba1ee5113b13b33b33b32b2582b012125e951b011b31b6b3
    f1d3cjf52bb33bc51b51j6d2e71eg91d643551j36j33cied81bcf06ch01j841b011c84i02b4d4h81c33ba2432813
    141c5251bf12c6b8b31d88c5b1e63e812422b71c12g662222b2181d51b11f1113225211c71b425211ba0593bc112
    141cach21be7b7fh3b631b2b6d4121bg917161b11d5111e71e52g71c13fb31cc61be95bac961e219fi231254e034
    1bg52fh34d81c6511db52c41f26h0b1e94bc31f4b5e1122b03e94222141b01f03d6518g21b22f29b0421j5321126
    121bf7138c12f7231d7735h06b311111b42i582311c31i46114212cd846212c72i582112ba61112611ba11112415
    cf9912cf621141be442241d2b0e0624819623e6b312bj811311ca171611i2c2271212bc2631121711h223111g51c
    i12b12f255111c31fdd3b76b5bbeg4b233cej65f9794fa83e02ei21g3b7g4212b32bgdi041712dcd0214eha0e62c
    3fe439b627d04be83bjh9f54f081b41c251b5bdg071b72712155g2d31bg0b4dg81g14fa75cf42ce3121725191eg4
    7ba98chd55hijfa51d0j6bc8ce0"),
   ("cased", "cased", "
    g5c66c6e71b01415c31d11bj5144ca82d572d05j61e242224116113111c01i31bd98bg61d89e1cid9d811512e314
    gh2i626cbh8b15e323g4bj2g4ch8262d826281111111d12f31711331734264b35317bb61b31b6b3ba11412b01135
    611111141641245541b7d232ib7f2bib4cc96432b2d81151dajj4e6b8d0bd2ba2341h7c0613ic1e31b46i0caci87
    b25bad3c66c6bbi9i0j6d64d6bb6b11b517121b11b51712ef11231e219bcc1f1b3f1j3c2b0c2cie2g4cbif6g4d2c
    52c5cfja0i51h1122122241b211171g51428171c8141511371de02c51c51d11c51d11c51d11c51d11c518bie4b01
    c066cg1g2cbj4g8cac8c66c66c6"),
   ("changeswhencasefolded", "cwcf", "
    g5c6j01b0c318d211111111111111111111111111111111111111111111111111111112111111111111111121111
    11111111111111111111111111111111111111111211111112111213241213321211111211211213111231721212
    11111111111111112111111111111111112211131111111111111111111111111111111111111111111111111111
    1111117212211411111111ce61e21113181611311121b719c21b2332111111111111111111111111122211122f1e
    81111111111111111111111111111111119111111111111111111111111111111111111111111111111111111211
    11111111112111111111111111111111111111111111111111111111111111111111111111111111111111111111
    111111111111112d8e81cie0d81151ib06cbh8b06e323dc011111111111111111111111111111111111111111111
    11111111111111111111111111111111111111111111111111111111111111111111111111111111111111111111
    11111111111115221111111111111111111111111111111111111111111111111111111111111111111111111111
    1111111111111111111119886b088886b1111111188b6e823265326b14b255326cj713261e5b6b91ib8c6bie0e8e
    81132111111411218311111111111111111111111111111111111111111111111111111111111111111111111111
    111111111111111111111111811141dbaf3111111111111111111111111111111111111111111111b91111111111
    11111111111111111bd5111111111111131111111111111111111111111111111111111111111111111111111111
    111b0111121111111141112111311111111111111111111515111111111111111411121111111111111111c41ij0
    i0caci87b25bad3c6bcc1e0bd6d6bf6b11b51712bhh0f1bf7c2cih4d2cbii8d2g4c5dbda3d4"),
   ("changeswhencasemapped", "cwcm", "
    g5c66c6f81b0c31d11g41i41c82b422114j31b86c71211123214152112217121123651b02bg61e24223311611311
    1c01e73d3151bd38bg61d8b0d9cie0d811512e323gh2i626cbh8b15e323bi5131b61bb3bf6211bb8262d82628111
    1111d12f31711331734264b35317cj713261c71b7d232ib7f2bib4bb312127ba27432b2d81151dajj4e6b8c8bd4b
    42g29b533251c51e5c42ig01c8i0caci87b25bad3c66c6bbi9i0j6d64d6bb6b11b517121b11b51712bhd1f1b3f1j
    3c2b0c2cie2g4cbif6g4d2c52c5dbch6g8"),
   ("changeswhenlowercased", "cwl", "
    g5c6ba1c317d31111111111111111111111111111111111111111111111111111111211111111111111121111111
    11111111111111111111111111111111111111121111321112132412133212111112112112131112317212121111
    11111111111121111111111111111122111311111111111111111111111111111111111111111111111111111111
    117212211411111111ci91113181611311121b719d518111111111111111111111115121122f1e81111111111111
    11111111111111111111911111111111111111111111111111111111111111111111111111121111111111112111
    11111111111111111111111111111111111111111111111111111111111111111111111111111111111111111111
    2d8cii9d81151hc2i6cbj516e323dc01111111111111111111111111111111111111111111111111111111111111
    11111111111111111111111111111111111111111111111111111111111111111111111111111111111111119111
    11111111111111111111111111111111111111111111111111111111111111111111111111111111111111111111
    119886b088886b1111111188c48888885b15b14b25b15cj713261e5b6b91ib8c6bie0e8e81132111111411218311
    11111111111111111111111111111111111111111111111111111111111111111111111111111111111111111111
    1111811141dbaf3111111111111111111111111111111111111111111111b9111111111111111111111111111bd5
    111111111111131111111111111111111111111111111111111111111111111111111111111b0111121111111141
    112111311111111111111111111515111111111111111411121111111111111111c41ccdb5c6bcc1e0bd6d6bf6b1
    1b51712bhh0f1bf7c2cih4d2cbii8d2g4c5dbda3d4"),
   ("changeswhentitlecased", "cwt", "
    j7c6f81e1c4181111111111111111111111111111111111111111111111111111111121111111111111121111111
    11111111111111111111111111111111111111121111321112131512133212111112141213111213111411212111
    11111111111111211111111111111111311113111111111111111111111111111111111111111311111111111111
    11181221141111111161211123214152112217121123651b02bg61e31113133b81c7d51233111111111111111111
    111115112121f2e81111111111111111111111111111111111911111111111111111111111111111111111111111
    11111111111121111111111112111111111111111111111111111111111111111111111111111111111111111111
    111111111111111111111111111111e9d9dgj66cbh8911cd8131b61bb41111111111111111111111111111111111
    11111111111111111111111111111111111111111111111111111111111111111111111111111111111111111111
    11111111111111111111117511111111111111111111111111111111111111111111111111111111111111111111
    11111111111111111111111111986b088886b08888b42888888512613312842288b0312de21d3b641ie3c6big2e8
    11321111116121b01111111111111111111111111111111111111111111111111111111111111111111111111111
    11111111111111111111111811141b2d81151dajj5111111111111111111111111111111111111111111111b9111
    111111111111111111111111bd511111111111113111111111111111111111111111111111111111111111111111
    1111111111b0111211111111141411221111111111111111111b111111111111111141112111111111111111c61i
    g01c8i0caci87b25bag5c6bcc9e0bd6d6bf5b11b51712bhj5f1bc5c2cih4d2cbii8d2f9c5dbdb0d4"),
   ("changeswhenuppercased", "cwu", "
    j7c6f81e1c4181111111111111111111111111111111111111111111111111111111121111111111111121111111
    11111111111111111111111111111111111111121111321112131512133212111112141213111213111521212111
    11111111111121111111111111111121211311111111111111111111111111111111111111131111111111111111
    181221141111111161211123214152112217121123651b02bg61e31113133b81c7d5123311111111111111111111
    1115112121f2e8111111111111111111111111111111111191111111111111111111111111111111111111111111
    11111111112111111111111211111111111111111111111111111111111111111111111111111111111111111111
    1111111111111111111111111111e9d9cii8e323hg06cbh8911cd8131b61bb411111111111111111111111111111
    11111111111111111111111111111111111111111111111111111111111111111111111111111111111111111111
    11111111111111111111111111175111111111111111111111111111111111111111111111111111111111111111
    1111111111111111111111111111111986b088886b08888b42f3124111331241342288b031241dd71d3b641ie3c6
    big2e811321111116121b01111111111111111111111111111111111111111111111111111111111111111111111
    11111111111111111111111111111811141b2d81151dajj511111111111111111111111111111111111111111111
    1b9111111111111111111111111111bd511111111111113111111111111111111111111111111111111111111111
    1111111111111111b0111211111111141411221111111111111111111b1111111111111111411121111111111111
    11c61ig01c8i0caci87b25bag5c6bcc9e0bd6d6bf5b11b51712bhj5f1bc5c2cih4d2cbii8d2f9c5dbdb0d4"),
   ("dash", "dash", "
    e51bdh21f11dge91bac91caf76g11d91b51dj01dah6121d1241c81ee61b91bb11fcgc42d71b01bg91dgi01db81"),
   ("defaultignorablecodepoint", "di", "
    bh31gh31hb61cii22bgb92i55cae35c65e9b6ede01fcdh9b6cd91bg01h99eicj54fdc78hjide1eaj6"),
   ("deprecated", "dep", "
    dc91bdc11cda7111cai92cce56gj72jaifa21"),
   ("diacritic", "dia", "
    j4111h11614122fa3bf91856b724192cf35ca91f5e511121211bd1842bd424233g7c7j1b1f8b1d42bc68e1b0b6c8
    g11b6134c81h41b61bb01b61bb01b61e73g01b6171bb91bb01b61bb01b61ba92b61bc41bb11b2611ba71b35h52c7
    1111142g6312g21bb2112e0245c5711b02ha53je82d01be8b191de73cj21c0821e8b52b13b52b2h21b51d89f42f8
    1b12g62g46i2c5416123f0g3e8d65b2d7b1ee5113b13b33b33b32ddb23db71fa66ba54j51daag61b2211c82i22b4
    d4ba23ba2162b21d71bf11c7b8f74d61j51b21d61be93g54f11ba0593bc82cach21hg9b6ch0111e71e52g71hg41b
    bi361e219gd7341bg52fh16d81c65dj6123h0b1e94bj21e11h22bc02g21h6193ba42bh82i02b61c4735i9312b32j
    5131bc32cf12bc61bb82bb51cg92cf8241bf61i31b81i11ec11cf8112i11g51df92c31fdf6b5bbei11cej65f97fg
    42fe6b7i02bgdi241712hjd7e62c3fe43368827d04dhb4g2bj47dh51g14hg62hd67ba9313"),
   ("emoji", "emoji", "
    d51615b0bb1141iah71b21cb61c21j06b52dg72b21bg61c5b143bj91cd12b0191f84159121222141211221313283
    51115b2b12211211b8122b86111232512242b125221521112c0256142141212611211111613161b02b5121411143
    11b12e8391b41b41dh22eg33b92f1141bce21b21ga1111bbeac61ca21bg02b22b412b0h5c612c31c0129c12bh4d4
    2bb222132i3231cg31g3b161c47228b21242142b3221829153b238321114161316i6e8h058243b03112312b0cc7b
    241ci3e71b01bi5bb2b33b13f7114b62b24b0"),
   ("emojicomponent", "ecomp", "
    d51615b0ibe71cb31fggb91gcec2c6fa75bef64hiiah6j6"),
   ("emojimodifier", "emod", "
    bchjj55"),
   ("emojimodifierbase", "ebase", "
    jhf71cb91b64bbhih91g032123bb722b1c1b93143137111c41ca1241c1142bh4335i31b6391b11fh512188619b02
    3f61g121211b731b3cc93e29"),
   ("emojipresentation", "epres", "
    iji62ca543121fc12c12f0b2e31b91b3182b72528151c11721141217142c81d51114311g13c41b41if92f1141bbf
    ii61ca21bj012b0h5c611c41c012513c12bh4d3b291h01c2b2e345b2b7313h1111bi72g3b341c4b81c62b31i6i5e
    8h061332434b1279cc7b241ci3e71b01bi5bb2b33b13f7114b62b24b0"),
   ("extendedpictographic", "extpict", "
    bg9141iah71b21cb61c21j06b52dg72b21bg61c5b143bj91cd12b0191f8415912122214121122131328351115b2b
    12211211b8122b86111232512242b125221521112c0256142141212611211111613161b02b512141114311b12e83
    91b41b41dh22eg33b92f1141bce21b21ga1111bbeac61d94ba0b2b52b51b42d7b0bb22b22b412b0b9f6c7b5b01c0
    129149c36bi82bb222132i323145cf41g3b161c47228b21242142b3221829153b238321114161316i6e8h0582b73
    1162b3cb8d8b24f68b06e08d02b242b49d9b2e71b01bi5i88b4be6cf6bac2"),
   ("extender", "ext", "
    bi31fd62ih81ee11gd01bd71i91hf21bc71cdh11f61gb11dj81g81faa11e35ba32j33cied81bfc61jg21c21bd71b
    a81c12cbgc71cag42bei31c7141bcc31cj31bb62ej83bcd11id21bjib62bbi0211b42cjaa02bca11if23"),
   ("graphemebase", "grbase", "
    d2j5d3b31fj4bb282647111c01cc47bg61d82f023e611121219c746b7b0b111e6c1b61ba18162214d2211d0c9i9b
    11b4e3973c44191317b51c5511b15d2b6e2f7f5111484137b02c91218222c21711343112622211b32134c4511642
    2c21712121243c44117b02311b2119131c217121534811231b524b2718218222c217121531216222b52134b8b111
    6331432111232333b25112331331c1c16318131c31b63134b9312224b07b01b1131c31b015322112c33124b013b4
    b1131e12112531312431b04c6221b83c419112792677b023b2e812b188b3d7211151c4111b0129125119b024d2c4
    2c711111b41d6b815125e98161b3d7e54161222c5243b64b312261b51e011512dh7142711142e1142d3142711142
    b51f7142g75c93c66i6262gg93i97b8b3b9329b8b4b313b5f2217812b193b06b06b15b06i9752d4115h0b0d14423
    4216713e225b1e44c66b13f7223f611911286b3b06b06b4i6e8b04381c99b22d2426f6112311b3e8825b53g25e32
    b1b11b31741613215bj2g4ch8262d826281111111d12f31b51b4261b923191b15c47e9b622c71b33d4g2be04gg6c
    2b1c1bib22dh7325e511512f672b5c39717171717171717d3j4d4c61i9b2cb4c6f86b61i64ba15e31j41i69e81cj
    cj33f59de8c0e741b0d22i0268cc1c0b713141c5254b06f68g8b0b2c4b31d88c5b11b2d06e81242221b31b1471c5
    1e16222b1318112b02d21f11132252111c4b728b16262697171g04bb712143b06bbbh2b2c34e9ief2dg62ba6d87b
    25511c4151112121gf0d2b6b6b0c2d51b914451bd54bf72d1362626233717b322b21c61b9121b52b4d4bc3534e53
    i81b331e7e5bd1c93e9b6c74d69d05d8b0d01d74b4e2bf82b06d64d64e08f2b1b21b517121b11b517123f2b2db19
    c2b08c461e219g96211e412312c31h289e8b9125d33c75c7d8f64c02e7b54131c9b09797g4d2d76b29f43c92c75c
    674b27i0h3f5f1b3f17e2b2b06d88c482ca8d11e23122b6689d9e08c2b19c2b844d8c8c0c3911f4b574d01221b2e
    9422214b4c57b09d6519b88d513b1f29118421b61c0b1b81c8324612g3711141b51b16e713b3b08218222c217121
    5311114222231b27c8b011211d81112b5112311312d9f682311c11113d0e81261121121248b0bg6e71264212c7d6
    f1821124b1b06b3b9e31112826b06c0c8c73112419c3bi5e79121ba0i3b282128121c4151264139b0h082e28414c
    71b0e0624891623e6b3129b3h37b0i713111i8d4b4b0691d8b4116b0c93d2c517121h57121d8c119b066121d7421
    1117b06e44b0ce6b9249b51d6823c3i61b5f0b3jc3ba2bb115b1bj6cgd6j9b3bah2b76c5djj55fi3gie1d0b233b0
    bhd4fg97d11b04i11b06d071b0e87b5b0b0171c15b9ed2f8bj8j15c52c5e4h55f6b1b3g44b459hdi2e1d2j7bb5ih
    a1417121cj1b51c9321b448dj6cda8ba75b3397b02121djd6cf33ed66c3b5b7j5bb6g0ce6b0d92g053c227d04g1c
    1g631bc2c0b2c0b2i79c5bd5i51h1122122241b211171g51428171c8141511371de02cj22fg2f54f081b417bbe0d
    166cg1g2be6e5b072b042dc0d0b8e44b051eg4c84b0cb4d02b141bj2d11312172592cc4714121b51bj729e8g8714
    b042hi5g8h6g1bj441c71211211b0141111614111111312112111111111121124171414111b01b753151b7f22ch0
    e44ba0b2b52b51b51d7b0bh4f6c9b3e44972b46bf4ji53b73b33cb86b241b5b24f68b06e08d02b242b49d9de48b4
    2b33b13f7114b62b24b07be71ba3bac9echc0d2edi22fhh42heh3b5gc2ceg6fe2bfa6ejd95iej0"),
   ("graphemeextend", "grext", "
    hg8bb2ch57cg3e511121211h2b1e8c1b61ba17262214d51d0c7j1b1f8991c44191315e33f99e2c41d2f511148413
    7b02c91f8111248191b02c6122f7142422331d0231b12f71451241c02c2611f8112148173b02d01f9111b2191e01
    31f5113531472b12c91f812211331472b12c82f7211248191b02c91h2141231181i1127b28j8129b17h32c711111
    f5b415125b11d691ba24161222c5243b64b312261b51ha33je64c83c92d02g4217812b191e5311bb72d41bb83429
    163cb9221f81171111286b021e8e62b2c04e8b043d89b22d2426f61123115f6822bf231b317416132bj8g4fc41bj
    5d3dah03be11j6d2ff46ba52dabg441b0d22i02ch213141c5251bf12c6b8b31d88c5b111e43e81242221d61g7622
    22b2181e71f1113225211e2281cd812141cach21hd7b6b6b6dg62ga51cc61be95bgh031254e0341bg52fh34g55db
    72h76h0b1e94bc31f4b5e1122b03e942271g13d6518g21b22f29118421j53246121bf7138c12f721111b2191b473
    5g71261121134311b42i582311c31i112611211212cd51246212c72i582112ba611128ba11112415cf9912ce51b0
    441be442241d2b0e0624819623e6b312bj811311ca171611i2c2271212bc2631121711h223111de72b12f2553c31
    fde916b5bbeg4b233cej65f97bae81g34i11b12bjgc72eha5e62c3fe25368827d04be83bjh9f54f081b41c251b5b
    dg071b7271215ba01bg07dh51g14fa84cf42ce31217251eh47ba97hjcch7j6bc8ce0"),
   ("hexdigit", "hex", "
    e8b076c66gfbj3b076c66"),
   ("idcontinue", "idc", "
    e8b07c6411c6e71b0111215c31d11ef84b2b457111b7bb712241165111c01i31bd9152bg61d8216e18e511121211
    8c744c9b15h44ba2182b01b921b6f92ba1b4f441212e6b8c84b15c4177h51bc92b01b918222c2171134292224814
    2152b2b01112316422c217121212211542233174117b6b1319131c21712152b0131321b542b0971318222c217121
    52922237342152b011b6216331432111232333b24533142161b4b0b6b3131c31b6291314721312242b0b6418131c
    31b0152913147253142b013b2b3131f1131554752b0b06131b83c4191127314611186b022b3f85b51b0d9211151c
    4111c32511171b024d21c326b0b1111114b01d64c01b81d691f7h46h82d811512e31dd3142711142e1142d314271
    1142b51f7142g72399b4b6b6i6263gc02b71c65h53b17c29c2b1c0b2b31312b2i431422b0d331b16i97e35h0b0d1
    1b24b2b0e025b1e44c66b1d7c84g31c92b16b0b318b41d12b2c0h73b0b79b2bb6b2f68b03e92b15e323b631d95fd
    4262d826281111111d12f31711331734264b35317b52e92b91c81b31b6b3f1b3413b2b71412b011266111111b624
    5541b7e1cgh9cc969b2d811512f671b5c497171717171717171d2fb73c5b515254i6271j55e31j4b7d2e8b6fb2gf
    j2g4ccbf7g7e62cg93c8c0e84b01bb5d792ba32i2c0f541b9f2b2h0b0b06c4311e92d6b2c93g5b4b16d11f59b42b
    06c33h3c432b625b06262697171e31b46bc3122b06bbbh2b2c34e9ief2dg62ba6d87b255b21b3151112121ba8d3d
    g3b8g42f4e0b24b6b6b632c43d251bd5b9b07c6411c6b0j036262623d5b21c61b9121b52b4d4bc3g9f3bd61bd0c9
    3e9b51d1d2b3d05e35d02d64815e2bf82b06d64d64e08f2b2b11b517121b11b517123f2b2db19c2b08c461e219g9
    6211e412312c3b0c39d1g5b912b0c2b0c66c6d8f662g441258131c92341d2c93c9d581d0c5f4b0c2b0b9b3b8bb0h
    3f5f1b3f1b3e08b06d8351c3cf0e21232b66f0d5b018d3d1c2e2c1c7c39h1d1b69g071b3c57b06f31b0448d6219g
    9441b311d5b81d764g2711141b51b07f95b06418222c21712151b022232161572735b1b011211d81b011211418b3
    2c9h55b044d0h0118b0bg6f429c36d4g531b1b0d8f77b06c0c8c72b54b067bi5f9ba1h4c182128121d01229b2b0h
    082e62812c7g3818h431b8h3ba38i8d3b5b0691e519b5b0c4d02c21b4h37121e43112198b066121d712167b06e44
    b0ce6c39b71e135b3b1i51h9jc2ba2bb1b7bj6cgd6j7b5bah2b6c2b0djj55fi3gie1f8bhd4fg97d11b06h91b06d0
    25b1f594b2b09c15b9ed2e53b0bj8g4d2c52c5e4h54f77b7g4212b179hdi2e1d2j7bb5iha1417121cj1b51c9321b
    448dj6cda8ba75b3397b032ebh7b0fb8e62c3fe25368827d04be83ee3i51h1122122241b211171g51428171c8141
    511371de02c51c51d11c51d11c51d11c51d11c5182f0fb2f54f081b41c251b5bba4d166cb371b72712155g2d31bb
    2e53b42b041dc1d1b7f8eh0e2cb4e3bj7d11c282cc4714121b51bj7b17e1h64b0bbj041c71211211b01411116141
    11111312112111111111121124171414111b01b753151b7ddi0b0bad0echc0d2edi22fhh42heh3b5gc2ceg6fe2bf
    a6ejd95iej0hahhb8ce0"),
   ("idstart", "ids", "
    g5c66c6e71b01415c31d11ef84b2b457111bc951224116113111c01i31bd98bg61d8216e1h1c744e5e3d521j911b
    5272b0321b611d0c9i9b11c4d392415c2419131c3c57b15c417b6e2f8f431b817b0b5b648222c217113431b61b32
    13b42b0186422c217121212d1411b93b69131c217121531b81b52c31b18222c217121531d0213b51b71163314321
    11232333b2c21f28131c31b631c631222d0148131c31b01531d0312b52b79131e121b615383c465b83c4191127f8
    e812b27f8211151c4111b012912511c14d21g381d6c75bb5e3c01b66443132734b3b21b7d811512e31dd31427111
    42e1142d3142711142b51f7142g7d7b6b6i6263gc02b71c65h53b17b8b3b9b4b8b4b313b5f2d5141g7i97e1115h0
    b0d1e9d025b1e44c6f4c39f3i21j3e7b78f4d0b32b0e4c6d6e13b0d62b15e323e141612315bj2g4ch8262d826281
    111111d12f31711331734264b35317bb61b31b6b3ba11412b011266111111b6245541b7e1cgh9cc96432b2d81151
    2f671b6c39717171717171717ff03c5975254i6451j0145e31j4b7d2e8b6fb2gfj2g4ccbf7g7e62cg93b6b02c0e7
    b6d12i0d992ba32i2c0b713141c3c9f2b4f0g263112b1c8b0c3c5c97e7c81b651b0b051e1c3318c0c3313f011322
    52111c432b173b26262697171e31b46bb5c9bbbh2b2c34e9ief2dg62ba6d87b25511b01b3151112121ba8d3dg3b8
    g42f4e0b2bb651bd5d6c66c6b1i936262623d5b21c61b9121b52b4d4bc3g9f3cg7c93e9e7d2b3d05d8b0d02d6481
    5e2bf8b8d64d64e08f2b2b11b517121b11b517123f2b2db19c2b08c461e219g96211e412312c3b0c39d1g5b912b0
    c2b0c66c6d8f662g41b54131c9e2c93c9d581c8c7f4b0c2b0b9b3b8bb0h3f5f1b3f1b3d6d8c89c3cf0e262b66f6c
    9b018c2e2b8e6c1c7c3b2f3f7221b3e5d2c5c6d6c91218d531b2e8b44c1111d5b81c5b92g3711141b51b07e7d882
    22c217121531b81b25d0b011211d811c5111e4f3b84c03d0e8c0211bi4e7e14d6e8c01f9e3b31h1c7d77bi5e4bb6
    g4d182128121c4b5111j482d9b6111c81b0e071c11b1e6b91b8h3bj9d3d191d7b71e9d0bb27121d8c11c56121d2b
    41c3e4cg0b9b511b31d4bc41h9jc2ba2bb1b7bj6cgd6j7b5bah2b76c5djj55fi3gie1d0bhg2fg97d1b7h9b7d0b8e
    8b64d1c15b9ed2e5cb1g4d2c52c5e4h551g6b3g4211b459hdi2e1d2j7bb5iha1417121cj1b51c9321b448dj6cda8
    ba75b3397b0fjj0i51h1122122241b211171g51428171c8141511371de02c51c51d11c51d11c51d11c51d11c518b
    ie4d166cg1g2be6e5b07b61dc1d0b8e4ei4c8cc8d021ca7d11312172592cc4714121b51bj7f9g871bca441c71211
    211b0141111614111111312112111111111121124171414111b01b753151b7eec0echc0d2edi22fhh42heh3b5gc2
    ceg6fe2bfa6ejd95iej0"),
   ("idsbinaryoperator", "idsb", "
    bcch222b0ej71"),
   ("idstrinaryoperator", "idst", "
    bcch42"),
   ("ideographic", "ideo", "
    bccj42c59b43jg5gfj2g4cajj2cchi4dg62ba6cjjg21b359hdi2e1d2j7bb5jai5dj6bjhb6echc0d2edi22fhh42he
    h3b5gc2ceg6fe2bfa6ejd95iej0"),
   ("joincontrol", "joinc", "
    ica42"),
   ("logicalorderexception", "loe", "
    dge85bc35cia0321dhbb422112"),
   ("lowercase", "lower", "
    j7c6e71b0141d6c41811111111111111111111111111111111111111111111111111111112111111111111111211
    11111111111111111111111111111111111111111111211113211121324121332121111121121121311122236121
    21111111111111111211111111111111111221113111111111111111111111111111111111111111111111111111
    11111117212211411111111g92d572d05j61e31113124b81c7d51233111111111111111111111115112122f1e811
    11111111111111111111111111111111911111111111111111111111111111111111111111111111111111211111
    11111112111111111111111111111111111111111111111111111111111111111111111111111111111111111111
    111111111111e8e1cii7e314hg06cbh8911bb7bj2g51111111111111111111111111111111111111111111111111
    11111111111111111111111111111111111111111111111111111111111111111111111111111111111111111111
    11111119111111111111111111111111111111111111111111111111111111111111111111111111111111111111
    1111111111111986b088886b08888b42888888512613312842288b0312bc11b31b6b3ba913231c714141228441d3
    b641ie3c6big2e811321111114112183111111111111111111111111111111111111111111111111111111111111
    111111111111111111111111111111111111112711141b2d81151dajj51111111111111111111111111111111111
    11111111111b9111111111111111111111111113bd31111111111113111111111111111111111111111111111111
    1111111111111111111111111b011112111111111411121131111111111111111111151511111111111111141112
    111111111111111c141113ic1e31b46i0caci87b25bag5c6bcc9e0bd6d6bf5b11b51712ef11231e219bci5f1bc5c
    2cih4d2cbii8d2f9c5cfjc6c6c671b8c6c6c6411171b1c6c6c6c6c6c6c6c6c6c6c6c6c6c6c6c6c6c8c8c516c6c51
    6c6c516c6c516c6c51611bie4b01c066cg1g2ccc8d4"),
   ("math", "math", "
    e31b63d11c9111e5141d71d11hc8321c6223fc73ggg91c73b1131b31b44c15b15g5b3413245b81412b0112661322
    213163b411g8c41612424d21162b4cg884c02j01d0c711c41b17ee52b2b046422235b411126b1852f7111c9493dd
    6g4cf6fb2e8c126fdcb21ic3611bg21b63c9111c9111bd1164dei92ejfa41bcj5i51h1122122241b211171g51428
    171c8141511371de02cj22f0fgd241c71211211b0141111614111111312112111111111121124171414111b01b75
    3151b7f22cfc69"),
   ("noncharactercodepoint", "nchar", "
    gejh6d2fc62gffd42gffd42gffd42gffd42gffd42gffd42gffd42gffd42gffd42gffd42gffd42gffd42gffd42gff
    d42gffd42gffd42"),
   ("patternsyntax", "patsyn", "
    d3b5b07c6411c64d4711121112414131c31d11hjg0c48b52b91b0da5hc0bg0gd0d0bbd2fb2bc8di534c5b51fcej3
    2cg12"),
   ("patternwhitespace", "patws", "
    95b81ba01iah22c42"),
   ("quotationmark", "qmark", "
    d4141bd11b51iac88c52dfj11ef74b33fchg94bi9141j02"),
   ("radical", "radical", "
    bbja4c61i9b2cb4"),
   ("regionalindicator", "ri", "
    bcheg2c6"),
   ("sentenceterminal", "sterm", "
    d31b21b61bdf31be73bi01e33ce61g111132cj32bhg42hj0142hh31bj82bf72e5151db42df44bg22b0222c93bi72
    g52jd21c3293dce73da61b31c22ec91cjje81ch02cc7131di22i62j51bf22be73be42ce91cbad0122f9132bg91b2
    1b61g51cia42bch75e44bi92bb74bc73bc9261b62i8212ba81cj82bb72dh325b5ba52ce93fb7111cf12i72ec02gj
    22h42bjce12bd31g52b11ff32cj61bjjh41hgf61"),
   ("softdotted", "sd", "
    ba52bj61ci11d01f21c01dc01j8111gea91f11b3131bd21bf71ec11cb42cig61baief32f02f02f02f02f02f02f02
    f02f02f02f02f02cbi21da52c61"),
   ("terminalpunctuation", "term", "
    d31b0111b1231id0181fb31f71h21b4113bi01e3b111cd52f4618d11cg12bcg82bh2146db12hi98hh31bc43h12bf
    7331d9422db42df44bg22b0213c93bi75g22jd21c3293dce73da61b3141b011232ec82cjje72cg93cc75di22i62j
    51bf13be73bc71b62ce91cbad0122f7314bg91b0111b1231g5121bai21e81bbf81bj91db02bf26g86i94jf25e44b
    i97bb24bc73bc9261b62i85ba81cj82bb73b22df843b5ba52ce93fb7111cf12i7242eb43e51ge52h42bdc35bhjb3
    2bd31g53b01ff32cj52bjjh41hgf54"),
   ("unifiedideograph", "uideo", "
    bddb2gfj2g4cajj2cdaf421112b01111223ghad0echc0d2edi22fhh42heh3b5gc2efb4ejd95iej0"),
   ("uppercase", "upper", "
    g5c6ba1c317d31111111111111111111111111111111111111111111111111111111211111111111111121111111
    11111111111111111111111111111111111111121111321112132412133212111112112112131112317121212111
    11111111111121111111111111111121211311111111111111111111111111111111111111111111111111111111
    117212211411111111ci91113181611311121b719d51233111111111111111111111115121122f1e811111111111
    11111111111111111111119111111111111111111111111111111111111111111111111111111211111111111121
    11111111111111111111111111111111111111111111111111111111111111111111111111111111111111111111
    112d8cii9d81151hc2i6cbj516e323dc011111111111111111111111111111111111111111111111111111111111
    11111111111111111111111111111111111111111111111111111111111111111111111111111111111111111191
    11111111111111111111111111111111111111111111111111111111111111111111111111111111111111111111
    11119886b088886b1111111188h24b24b24b25b14cg2141332321356111111424b0251c6b6b91ib8c6bie0e8e811
    32111111411218311111111111111111111111111111111111111111111111111111111111111111111111111111
    111111111111111111111811141dbaf3111111111111111111111111111111111111111111111b91111111111111
    11111111111111bd5111111111111131111111111111111111111111111111111111111111111111111111111111
    b0111121111111141112111311111111111111111111515111111111111111411121111111111111111c41ccdb5c
    6bcc1e0bd6d6bf6b11b51712bhh0f1bf7c2cih4d2cbii8d2g4c5cfjc7c6c6c6c6c6c611221222418c6c6c6214281
    7c7214151137c7c6c6c6c6c6c6c6c6c6c6c6d0c5d3c5d3c5d3c5d3c5d31eea5d4cag2c66c66c6"),
   ("variationselector", "vs", "
    gbf5311fiig4b6ifchc0ce0"),
   ("whitespace", "wspace", "
    95b81ba01c61ffj91ced1b1c9251e71eaa01"),
   ("xidcontinue", "xidc", "
    e8b07c6411c6e71b0111215c31d11ef84b2b457111b7bb712331165111c01i31bd9152bg61d8216e18e511121211
    8c744c9b15h44ba2182b01b921b6f92ba1b4f441212e6b8c84b15c4177h51bc92b01b918222c2171134292224814
    2152b2b01112316422c217121212211542233174117b6b1319131c21712152b0131321b542b0971318222c217121
    52922237342152b011b6216331432111232333b24533142161b4b0b6b3131c31b6291314721312242b0b6418131c
    31b0152913147253142b013b2b3131f1131554752b0b06131b83c4191127314611186b022b3f85b51b0d9211151c
    4111c32511171b024d21c326b0b1111114b01d64c01b81d691f7h46h82d811512e31dd3142711142e1142d314271
    1142b51f7142g72399b4b6b6i6263gc02b71c65h53b17c29c2b1c0b2b31312b2i431422b0d331b16i97e35h0b0d1
    1b24b2b0e025b1e44c66b1d7c84g31c92b16b0b318b41d12b2c0h73b0b79b2bb6b2f68b03e92b15e323b631d95fd
    4262d826281111111d12f31711331734264b35317b52e92b91c81b31b6b3f1b3413b2b71412b011266111111b624
    5541b7e1cgh9cc969b2d811512f671b5c497171717171717171d2fb73c5b515254i622231j55e31j4b7d2e8b6fb2
    gfj2g4ccbf7g7e62cg93c8c0e84b01bb5d792ba32i2c0f541b9f2b2h0b0b06c4311e92d6b2c93g5b4b16d11f59b4
    2b06c33h3c432b625b06262697171e31b46bc3122b06bbbh2b2c34e9ief2dg62ba6d87b255b21b3151112121ba8d
    3bd96cb8b8g42f4e0b06b6b6b632c43d3111311111111bc6b9b07c6411c6b0j036262623d5b21c61b9121b52b4d4
    bc3g9f3bd61bd0c93e9b51d1d2b3d05e35d02d64815e2bf82b06d64d64e08f2b2b11b517121b11b517123f2b2db1
    9c2b08c461e219g96211e412312c3b0c39d1g5b912b0c2b0c66c6d8f662g441258131c92341d2c93c9d581d0c5f4
    b0c2b0b9b3b8bb0h3f5f1b3f1b3e08b06d8351c3cf0e21232b66f0d5b018d3d1c2e2c1c7c39h1d1b69g071b3c57b
    06f31b0448d6219g9441b311d5b81d764g2711141b51b07f95b06418222c21712151b022232161572735b1b01121
    1d81b011211418b32c9h55b044d0h0118b0bg6f429c36d4g531b1b0d8f77b06c0c8c72b54b067bi5f9ba1h4c1821
    28121d01229b2b0h082e62812c7g3818h431b8h3ba38i8d3b5b0691e519b5b0c4d02c21b4h37121e43112198b066
    121d712167b06e44b0ce6c39b71e135b3b1i51h9jc2ba2bb1b7bj6cgd6j7b5bah2b6c2b0djj55fi3gie1f8bhd4fg
    97d11b06h91b06d025b1f594b2b09c15b9ed2e53b0bj8g4d2c52c5e4h54f77b7g4212b179hdi2e1d2j7bb5iha141
    7121cj1b51c9321b448dj6cda8ba75b3397b032ebh7b0fb8e62c3fe25368827d04be83ee3i51h1122122241b2111
    71g51428171c8141511371de02c51c51d11c51d11c51d11c51d11c5182f0fb2f54f081b41c251b5bba4d166cb371
    b72712155g2d31bb2e53b42b041dc1d1b7f8eh0e2cb4e3bj7d11c282cc4714121b51bj7b17e1h64b0bbj041c7121
    1211b0141111614111111312112111111111121124171414111b01b753151b7ddi0b0bad0echc0d2edi22fhh42he
    h3b5gc2ceg6fe2bfa6ejd95iej0hahhb8ce0"),
   ("xidstart", "xids", "
    g5c66c6e71b01415c31d11ef84b2b457111bc951233116113111c01i31bd98bg61d8216e1h1c744e5e3d521j911b
    5272b0321b611d0c9i9b11c4d392415c2419131c3c57b15c417b6e2f8f431b817b0b5b648222c217113431b61b32
    13b42b0186422c217121212d1411b93b69131c217121531b81b52c31b18222c217121531d0213b51b71163314321
    11232333b2c21f28131c31b631c631222d0148131c31b01531d0312b52b79131e121b615383c465b83c4191127f8
    e811b37f8211151c4111b011b012511c14d21g381d6c75bb5e3c01b66443132734b3b21b7d811512e31dd3142711
    142e1142d3142711142b51f7142g7d7b6b6i6263gc02b71c65h53b17b8b3b9b4b8b4b313b5f2d5141g7i97e1115h
    0b0d1e9d025b1e44c6f4c39f3i21j3e7b78f4d0b32b0e4c6d6e13b0d62b15e323e141612315bj2g4ch8262d82628
    1111111d12f31711331734264b35317bb61b31b6b3ba11412b011266111111b6245541b7e1cgh9cc96432b2d8115
    12f671b6c39717171717171717ff03c5975254i6631j0145e31j4b7d2e8b6fb2gfj2g4ccbf7g7e62cg93b6b02c0e
    7b6d12i0d992ba32i2c0b713141c3c9f2b4f0g263112b1c8b0c3c5c97e7c81b651b0b051e1c3318c0c3313f01132
    252111c432b173b26262697171e31b46bb5c9bbbh2b2c34e9ief2dg62ba6d87b25511b01b3151112121ba8d3bd96
    cb8b8g42f4e0b0bb9111311111111bc6d6c66c6b1f62d136262623d5b21c61b9121b52b4d4bc3g9f3cg7c93e9e7d
    2b3d05d8b0d02d64815e2bf8b8d64d64e08f2b2b11b517121b11b517123f2b2db19c2b08c461e219g96211e41231
    2c3b0c39d1g5b912b0c2b0c66c6d8f662g41b54131c9e2c93c9d581c8c7f4b0c2b0b9b3b8bb0h3f5f1b3f1b3d6d8
    c89c3cf0e262b66f6c9b018c2e2b8e6c1c7c3b2f3f7221b3e5d2c5c6d6c91218d531b2e8b44c1111d5b81c5b92g3
    711141b51b07e7d88222c217121531b81b25d0b011211d811c5111e4f3b84c03d0e8c0211bi4e7e14d6e8c01f9e3
    b31h1c7d77bi5e4bb6g4d182128121c4b5111j482d9b6111c81b0e071c11b1e6b91b8h3bj9d3d191d7b71e9d0bb2
    7121d8c11c56121d2b41c3e4cg0b9b511b31d4bc41h9jc2ba2bb1b7bj6cgd6j7b5bah2b76c5djj55fi3gie1d0bhg
    2fg97d1b7h9b7d0b8e8b64d1c15b9ed2e5cb1g4d2c52c5e4h551g6b3g4211b459hdi2e1d2j7bb5iha1417121cj1b
    51c9321b448dj6cda8ba75b3397b0fjj0i51h1122122241b211171g51428171c8141511371de02c51c51d11c51d1
    1c51d11c51d11c518bie4d166cg1g2be6e5b07b61dc1d0b8e4ei4c8cc8d021ca7d11312172592cc4714121b51bj7
    f9g871bca441c71211211b0141111614111111312112111111111121124171414111b01b753151b7eec0echc0d2e
    di22fhh42heh3b5gc2ceg6fe2bfa6ejd95iej0")]

/-- The properties with their decoded runs, as `Runs.contains` asks about them. -/
def properties : List (String × String × Runs) :=
  propertyTable.map fun (long, short, table) => (long, short, Runs.decode table)

/-- The code points with a property, by one of its names. White space has a third one. -/
def property? (name : String) : Option Runs :=
  let name := if name == "space" then "wspace" else name
  (properties.find? fun (long, short, _) => long == name || short == name).map (·.2.2)

end DotJs.Unicode
