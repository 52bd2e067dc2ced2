import JsonValidation.Unicode.Runs

/-!
# Binary properties

Sets of code points after version 15 of the Unicode standard, each with its names.

* `Binary.sets`: the sets by name.
-/

namespace JsonValidation.Unicode.Binary

/-- Letters and what else counts as alphabetic. -/
def alphabetic : Boundaries := Boundaries.ofText
  "41 5b 61 7b aa ab b5 b6 ba bb c0 d7 d8 f7 f8 2c2 2c6 2d2 2e0 2e5 2ec 2ed 2ee 2ef 345 346
  370 375 376 378 37a 37e 37f 380 386 387 388 38b 38c 38d 38e 3a2 3a3 3f6 3f7 482 48a 530 531
  557 559 55a 560 589 5b0 5be 5bf 5c0 5c1 5c3 5c4 5c6 5c7 5c8 5d0 5eb 5ef 5f3 610 61b 620 658
  659 660 66e 6d4 6d5 6dd 6e1 6e9 6ed 6f0 6fa 6fd 6ff 700 710 740 74d 7b2 7ca 7eb 7f4 7f6 7fa
  7fb 800 818 81a 82d 840 859 860 86b 870 888 889 88f 8a0 8ca 8d4 8e0 8e3 8ea 8f0 93c 93d 94d
  94e 951 955 964 971 984 985 98d 98f 991 993 9a9 9aa 9b1 9b2 9b3 9b6 9ba 9bd 9c5 9c7 9c9 9cb
  9cd 9ce 9cf 9d7 9d8 9dc 9de 9df 9e4 9f0 9f2 9fc 9fd a01 a04 a05 a0b a0f a11 a13 a29 a2a a31
  a32 a34 a35 a37 a38 a3a a3e a43 a47 a49 a4b a4d a51 a52 a59 a5d a5e a5f a70 a76 a81 a84 a85
  a8e a8f a92 a93 aa9 aaa ab1 ab2 ab4 ab5 aba abd ac6 ac7 aca acb acd ad0 ad1 ae0 ae4 af9 afd
  b01 b04 b05 b0d b0f b11 b13 b29 b2a b31 b32 b34 b35 b3a b3d b45 b47 b49 b4b b4d b56 b58 b5c
  b5e b5f b64 b71 b72 b82 b84 b85 b8b b8e b91 b92 b96 b99 b9b b9c b9d b9e ba0 ba3 ba5 ba8 bab
  bae bba bbe bc3 bc6 bc9 bca bcd bd0 bd1 bd7 bd8 c00 c0d c0e c11 c12 c29 c2a c3a c3d c45 c46
  c49 c4a c4d c55 c57 c58 c5b c5d c5e c60 c64 c80 c84 c85 c8d c8e c91 c92 ca9 caa cb4 cb5 cba
  cbd cc5 cc6 cc9 cca ccd cd5 cd7 cdd cdf ce0 ce4 cf1 cf4 d00 d0d d0e d11 d12 d3b d3d d45 d46
  d49 d4a d4d d4e d4f d54 d58 d5f d64 d7a d80 d81 d84 d85 d97 d9a db2 db3 dbc dbd dbe dc0 dc7
  dcf dd5 dd6 dd7 dd8 de0 df2 df4 e01 e3b e40 e47 e4d e4e e81 e83 e84 e85 e86 e8b e8c ea4 ea5
  ea6 ea7 eba ebb ebe ec0 ec5 ec6 ec7 ecd ece edc ee0 f00 f01 f40 f48 f49 f6d f71 f84 f88 f98
  f99 fbd 1000 1037 1038 1039 103b 1040 1050 1090 109a 109e 10a0 10c6 10c7 10c8 10cd 10ce
  10d0 10fb 10fc 1249 124a 124e 1250 1257 1258 1259 125a 125e 1260 1289 128a 128e 1290 12b1
  12b2 12b6 12b8 12bf 12c0 12c1 12c2 12c6 12c8 12d7 12d8 1311 1312 1316 1318 135b 1380 1390
  13a0 13f6 13f8 13fe 1401 166d 166f 1680 1681 169b 16a0 16eb 16ee 16f9 1700 1714 171f 1734
  1740 1754 1760 176d 176e 1771 1772 1774 1780 17b4 17b6 17c9 17d7 17d8 17dc 17dd 1820 1879
  1880 18ab 18b0 18f6 1900 191f 1920 192c 1930 1939 1950 196e 1970 1975 1980 19ac 19b0 19ca
  1a00 1a1c 1a20 1a5f 1a61 1a75 1aa7 1aa8 1abf 1ac1 1acc 1acf 1b00 1b34 1b35 1b44 1b45 1b4d
  1b80 1baa 1bac 1bb0 1bba 1be6 1be7 1bf2 1c00 1c37 1c4d 1c50 1c5a 1c7e 1c80 1c89 1c90 1cbb
  1cbd 1cc0 1ce9 1ced 1cee 1cf4 1cf5 1cf7 1cfa 1cfb 1d00 1dc0 1de7 1df5 1e00 1f16 1f18 1f1e
  1f20 1f46 1f48 1f4e 1f50 1f58 1f59 1f5a 1f5b 1f5c 1f5d 1f5e 1f5f 1f7e 1f80 1fb5 1fb6 1fbd
  1fbe 1fbf 1fc2 1fc5 1fc6 1fcd 1fd0 1fd4 1fd6 1fdc 1fe0 1fed 1ff2 1ff5 1ff6 1ffd 2071 2072
  207f 2080 2090 209d 2102 2103 2107 2108 210a 2114 2115 2116 2119 211e 2124 2125 2126 2127
  2128 2129 212a 212e 212f 213a 213c 2140 2145 214a 214e 214f 2160 2189 24b6 24ea 2c00 2ce5
  2ceb 2cef 2cf2 2cf4 2d00 2d26 2d27 2d28 2d2d 2d2e 2d30 2d68 2d6f 2d70 2d80 2d97 2da0 2da7
  2da8 2daf 2db0 2db7 2db8 2dbf 2dc0 2dc7 2dc8 2dcf 2dd0 2dd7 2dd8 2ddf 2de0 2e00 2e2f 2e30
  3005 3008 3021 302a 3031 3036 3038 303d 3041 3097 309d 30a0 30a1 30fb 30fc 3100 3105 3130
  3131 318f 31a0 31c0 31f0 3200 3400 4dc0 4e00 a48d a4d0 a4fe a500 a60d a610 a620 a62a a62c
  a640 a66f a674 a67c a67f a6f0 a717 a720 a722 a789 a78b a7cb a7d0 a7d2 a7d3 a7d4 a7d5 a7da
  a7f2 a806 a807 a828 a840 a874 a880 a8c4 a8c5 a8c6 a8f2 a8f8 a8fb a8fc a8fd a900 a90a a92b
  a930 a953 a960 a97d a980 a9b3 a9b4 a9c0 a9cf a9d0 a9e0 a9f0 a9fa a9ff aa00 aa37 aa40 aa4e
  aa60 aa77 aa7a aabf aac0 aac1 aac2 aac3 aadb aade aae0 aaf0 aaf2 aaf6 ab01 ab07 ab09 ab0f
  ab11 ab17 ab20 ab27 ab28 ab2f ab30 ab5b ab5c ab6a ab70 abeb ac00 d7a4 d7b0 d7c7 d7cb d7fc
  f900 fa6e fa70 fada fb00 fb07 fb13 fb18 fb1d fb29 fb2a fb37 fb38 fb3d fb3e fb3f fb40 fb42
  fb43 fb45 fb46 fbb2 fbd3 fd3e fd50 fd90 fd92 fdc8 fdf0 fdfc fe70 fe75 fe76 fefd ff21 ff3b
  ff41 ff5b ff66 ffbf ffc2 ffc8 ffca ffd0 ffd2 ffd8 ffda ffdd 10000 1000c 1000d 10027 10028
  1003b 1003c 1003e 1003f 1004e 10050 1005e 10080 100fb 10140 10175 10280 1029d 102a0 102d1
  10300 10320 1032d 1034b 10350 1037b 10380 1039e 103a0 103c4 103c8 103d0 103d1 103d6 10400
  1049e 104b0 104d4 104d8 104fc 10500 10528 10530 10564 10570 1057b 1057c 1058b 1058c 10593
  10594 10596 10597 105a2 105a3 105b2 105b3 105ba 105bb 105bd 10600 10737 10740 10756 10760
  10768 10780 10786 10787 107b1 107b2 107bb 10800 10806 10808 10809 1080a 10836 10837 10839
  1083c 1083d 1083f 10856 10860 10877 10880 1089f 108e0 108f3 108f4 108f6 10900 10916 10920
  1093a 10980 109b8 109be 109c0 10a00 10a04 10a05 10a07 10a0c 10a14 10a15 10a18 10a19 10a36
  10a60 10a7d 10a80 10a9d 10ac0 10ac8 10ac9 10ae5 10b00 10b36 10b40 10b56 10b60 10b73 10b80
  10b92 10c00 10c49 10c80 10cb3 10cc0 10cf3 10d00 10d28 10e80 10eaa 10eab 10ead 10eb0 10eb2
  10f00 10f1d 10f27 10f28 10f30 10f46 10f70 10f82 10fb0 10fc5 10fe0 10ff7 11000 11046 11071
  11076 11080 110b9 110c2 110c3 110d0 110e9 11100 11133 11144 11148 11150 11173 11176 11177
  11180 111c0 111c1 111c5 111ce 111d0 111da 111db 111dc 111dd 11200 11212 11213 11235 11237
  11238 1123e 11242 11280 11287 11288 11289 1128a 1128e 1128f 1129e 1129f 112a9 112b0 112e9
  11300 11304 11305 1130d 1130f 11311 11313 11329 1132a 11331 11332 11334 11335 1133a 1133d
  11345 11347 11349 1134b 1134d 11350 11351 11357 11358 1135d 11364 11400 11442 11443 11446
  11447 1144b 1145f 11462 11480 114c2 114c4 114c6 114c7 114c8 11580 115b6 115b8 115bf 115d8
  115de 11600 1163f 11640 11641 11644 11645 11680 116b6 116b8 116b9 11700 1171b 1171d 1172b
  11740 11747 11800 11839 118a0 118e0 118ff 11907 11909 1190a 1190c 11914 11915 11917 11918
  11936 11937 11939 1193b 1193d 1193f 11943 119a0 119a8 119aa 119d8 119da 119e0 119e1 119e2
  119e3 119e5 11a00 11a33 11a35 11a3f 11a50 11a98 11a9d 11a9e 11ab0 11af9 11c00 11c09 11c0a
  11c37 11c38 11c3f 11c40 11c41 11c72 11c90 11c92 11ca8 11ca9 11cb7 11d00 11d07 11d08 11d0a
  11d0b 11d37 11d3a 11d3b 11d3c 11d3e 11d3f 11d42 11d43 11d44 11d46 11d48 11d60 11d66 11d67
  11d69 11d6a 11d8f 11d90 11d92 11d93 11d97 11d98 11d99 11ee0 11ef7 11f00 11f11 11f12 11f3b
  11f3e 11f41 11fb0 11fb1 12000 1239a 12400 1246f 12480 12544 12f90 12ff1 13000 13430 13441
  13447 14400 14647 16800 16a39 16a40 16a5f 16a70 16abf 16ad0 16aee 16b00 16b30 16b40 16b44
  16b63 16b78 16b7d 16b90 16e40 16e80 16f00 16f4b 16f4f 16f88 16f8f 16fa0 16fe0 16fe2 16fe3
  16fe4 16ff0 16ff2 17000 187f8 18800 18cd6 18d00 18d09 1aff0 1aff4 1aff5 1affc 1affd 1afff
  1b000 1b123 1b132 1b133 1b150 1b153 1b155 1b156 1b164 1b168 1b170 1b2fc 1bc00 1bc6b 1bc70
  1bc7d 1bc80 1bc89 1bc90 1bc9a 1bc9e 1bc9f 1d400 1d455 1d456 1d49d 1d49e 1d4a0 1d4a2 1d4a3
  1d4a5 1d4a7 1d4a9 1d4ad 1d4ae 1d4ba 1d4bb 1d4bc 1d4bd 1d4c4 1d4c5 1d506 1d507 1d50b 1d50d
  1d515 1d516 1d51d 1d51e 1d53a 1d53b 1d53f 1d540 1d545 1d546 1d547 1d54a 1d551 1d552 1d6a6
  1d6a8 1d6c1 1d6c2 1d6db 1d6dc 1d6fb 1d6fc 1d715 1d716 1d735 1d736 1d74f 1d750 1d76f 1d770
  1d789 1d78a 1d7a9 1d7aa 1d7c3 1d7c4 1d7cc 1df00 1df1f 1df25 1df2b 1e000 1e007 1e008 1e019
  1e01b 1e022 1e023 1e025 1e026 1e02b 1e030 1e06e 1e08f 1e090 1e100 1e12d 1e137 1e13e 1e14e
  1e14f 1e290 1e2ae 1e2c0 1e2ec 1e4d0 1e4ec 1e7e0 1e7e7 1e7e8 1e7ec 1e7ed 1e7ef 1e7f0 1e7ff
  1e800 1e8c5 1e900 1e944 1e947 1e948 1e94b 1e94c 1ee00 1ee04 1ee05 1ee20 1ee21 1ee23 1ee24
  1ee25 1ee27 1ee28 1ee29 1ee33 1ee34 1ee38 1ee39 1ee3a 1ee3b 1ee3c 1ee42 1ee43 1ee47 1ee48
  1ee49 1ee4a 1ee4b 1ee4c 1ee4d 1ee50 1ee51 1ee53 1ee54 1ee55 1ee57 1ee58 1ee59 1ee5a 1ee5b
  1ee5c 1ee5d 1ee5e 1ee5f 1ee60 1ee61 1ee63 1ee64 1ee65 1ee67 1ee6b 1ee6c 1ee73 1ee74 1ee78
  1ee79 1ee7d 1ee7e 1ee7f 1ee80 1ee8a 1ee8b 1ee9c 1eea1 1eea4 1eea5 1eeaa 1eeab 1eebc 1f130
  1f14a 1f150 1f16a 1f170 1f18a 20000 2a6e0 2a700 2b73a 2b740 2b81e 2b820 2cea2 2ceb0 2ebe1
  2f800 2fa1e 30000 3134b 31350 323b0"

/-- The hexadecimal digits of ASCII. -/
def asciiHexDigit : Boundaries := Boundaries.ofText
  "30 3a 41 47 61 67"

/-- Dashes. -/
def dash : Boundaries := Boundaries.ofText
  "2d 2e 58a 58b 5be 5bf 1400 1401 1806 1807 2010 2016 2053 2054 207b 207c 208b 208c 2212 2213
  2e17 2e18 2e1a 2e1b 2e3a 2e3c 2e40 2e41 2e5d 2e5e 301c 301d 3030 3031 30a0 30a1 fe31 fe33
  fe58 fe59 fe63 fe64 ff0d ff0e 10ead 10eae"

/-- Code points that are not shown by default. -/
def defaultIgnorableCodePoint : Boundaries := Boundaries.ofText
  "ad ae 34f 350 61c 61d 115f 1161 17b4 17b6 180b 1810 200b 2010 202a 202f 2060 2070 3164 3165
  fe00 fe10 feff ff00 ffa0 ffa1 fff0 fff9 1bca0 1bca4 1d173 1d17b e0000 e1000"

/-- Diacritics. -/
def diacritic : Boundaries := Boundaries.ofText
  "5e 5f 60 61 a8 a9 af b0 b4 b5 b7 b9 2b0 34f 350 358 35d 363 374 376 37a 37b 384 386 483 488
  559 55a 591 5a2 5a3 5be 5bf 5c0 5c1 5c3 5c4 5c5 64b 653 657 659 6df 6e1 6e5 6e7 6ea 6ed 730
  74b 7a6 7b1 7eb 7f6 818 81a 898 8a0 8c9 8d3 8e3 8ff 93c 93d 94d 94e 951 955 971 972 9bc 9bd
  9cd 9ce a3c a3d a4d a4e abc abd acd ace afd b00 b3c b3d b4d b4e b55 b56 bcd bce c3c c3d c4d
  c4e cbc cbd ccd cce d3b d3d d4d d4e dca dcb e47 e4d e4e e4f eba ebb ec8 ecd f18 f1a f35 f36
  f37 f38 f39 f3a f3e f40 f82 f85 f86 f88 fc6 fc7 1037 1038 1039 103b 1063 1065 1069 106e
  1087 108e 108f 1090 109a 109c 135d 1360 1714 1716 17c9 17d4 17dd 17de 1939 193c 1a75 1a7d
  1a7f 1a80 1ab0 1abf 1ac1 1acc 1b34 1b35 1b44 1b45 1b6b 1b74 1baa 1bac 1c36 1c38 1c78 1c7e
  1cd0 1ce9 1ced 1cee 1cf4 1cf5 1cf7 1cfa 1d2c 1d6b 1dc4 1dd0 1df5 1e00 1fbd 1fbe 1fbf 1fc2
  1fcd 1fd0 1fdd 1fe0 1fed 1ff0 1ffd 1fff 2cef 2cf2 2e2f 2e30 302a 3030 3099 309d 30fc 30fd
  a66f a670 a67c a67e a67f a680 a69c a69e a6f0 a6f2 a700 a722 a788 a78b a7f8 a7fa a8c4 a8c5
  a8e0 a8f2 a92b a92f a953 a954 a9b3 a9b4 a9c0 a9c1 a9e5 a9e6 aa7b aa7e aabf aac3 aaf6 aaf7
  ab5b ab60 ab69 ab6c abec abee fb1e fb1f fe20 fe30 ff3e ff3f ff40 ff41 ff70 ff71 ff9e ffa0
  ffe3 ffe4 102e0 102e1 10780 10786 10787 107b1 107b2 107bb 10ae5 10ae7 10d22 10d28 10efd
  10f00 10f46 10f51 10f82 10f86 11046 11047 11070 11071 110b9 110bb 11133 11135 11173 11174
  111c0 111c1 111ca 111cd 11235 11237 112e9 112eb 1133c 1133d 1134d 1134e 11366 1136d 11370
  11375 11442 11443 11446 11447 114c2 114c4 115bf 115c1 1163f 11640 116b6 116b8 1172b 1172c
  11839 1183b 1193d 1193f 11943 11944 119e0 119e1 11a34 11a35 11a47 11a48 11a99 11a9a 11c3f
  11c40 11d42 11d43 11d44 11d46 11d97 11d98 13447 13456 16af0 16af5 16b30 16b37 16f8f 16fa0
  16ff0 16ff2 1aff0 1aff4 1aff5 1affc 1affd 1afff 1cf00 1cf2e 1cf30 1cf47 1d167 1d16a 1d16d
  1d173 1d17b 1d183 1d185 1d18c 1d1aa 1d1ae 1e030 1e06e 1e130 1e137 1e2ae 1e2af 1e2ec 1e2f0
  1e8d0 1e8d7 1e944 1e947 1e948 1e94b"

/-- Emoji characters. -/
def emoji : Boundaries := Boundaries.ofText
  "23 24 2a 2b 30 3a a9 aa ae af 203c 203d 2049 204a 2122 2123 2139 213a 2194 219a 21a9 21ab
  231a 231c 2328 2329 23cf 23d0 23e9 23f4 23f8 23fb 24c2 24c3 25aa 25ac 25b6 25b7 25c0 25c1
  25fb 25ff 2600 2605 260e 260f 2611 2612 2614 2616 2618 2619 261d 261e 2620 2621 2622 2624
  2626 2627 262a 262b 262e 2630 2638 263b 2640 2641 2642 2643 2648 2654 265f 2661 2663 2664
  2665 2667 2668 2669 267b 267c 267e 2680 2692 2698 2699 269a 269b 269d 26a0 26a2 26a7 26a8
  26aa 26ac 26b0 26b2 26bd 26bf 26c4 26c6 26c8 26c9 26ce 26d0 26d1 26d2 26d3 26d5 26e9 26eb
  26f0 26f6 26f7 26fb 26fd 26fe 2702 2703 2705 2706 2708 270e 270f 2710 2712 2713 2714 2715
  2716 2717 271d 271e 2721 2722 2728 2729 2733 2735 2744 2745 2747 2748 274c 274d 274e 274f
  2753 2756 2757 2758 2763 2765 2795 2798 27a1 27a2 27b0 27b1 27bf 27c0 2934 2936 2b05 2b08
  2b1b 2b1d 2b50 2b51 2b55 2b56 3030 3031 303d 303e 3297 3298 3299 329a 1f004 1f005 1f0cf
  1f0d0 1f170 1f172 1f17e 1f180 1f18e 1f18f 1f191 1f19b 1f1e6 1f200 1f201 1f203 1f21a 1f21b
  1f22f 1f230 1f232 1f23b 1f250 1f252 1f300 1f322 1f324 1f394 1f396 1f398 1f399 1f39c 1f39e
  1f3f1 1f3f3 1f3f6 1f3f7 1f4fe 1f4ff 1f53e 1f549 1f54f 1f550 1f568 1f56f 1f571 1f573 1f57b
  1f587 1f588 1f58a 1f58e 1f590 1f591 1f595 1f597 1f5a4 1f5a6 1f5a8 1f5a9 1f5b1 1f5b3 1f5bc
  1f5bd 1f5c2 1f5c5 1f5d1 1f5d4 1f5dc 1f5df 1f5e1 1f5e2 1f5e3 1f5e4 1f5e8 1f5e9 1f5ef 1f5f0
  1f5f3 1f5f4 1f5fa 1f650 1f680 1f6c6 1f6cb 1f6d3 1f6d5 1f6d8 1f6dc 1f6e6 1f6e9 1f6ea 1f6eb
  1f6ed 1f6f0 1f6f1 1f6f3 1f6fd 1f7e0 1f7ec 1f7f0 1f7f1 1f90c 1f93b 1f93c 1f946 1f947 1fa00
  1fa70 1fa7d 1fa80 1fa89 1fa90 1fabe 1fabf 1fac6 1face 1fadc 1fae0 1fae9 1faf0 1faf9"

/-- Modifiers of emoji. -/
def emojiModifier : Boundaries := Boundaries.ofText
  "1f3fb 1f400"

/-- Characters that are shown as emoji by default. -/
def emojiPresentation : Boundaries := Boundaries.ofText
  "231a 231c 23e9 23ed 23f0 23f1 23f3 23f4 25fd 25ff 2614 2616 2648 2654 267f 2680 2693 2694
  26a1 26a2 26aa 26ac 26bd 26bf 26c4 26c6 26ce 26cf 26d4 26d5 26ea 26eb 26f2 26f4 26f5 26f6
  26fa 26fb 26fd 26fe 2705 2706 270a 270c 2728 2729 274c 274d 274e 274f 2753 2756 2757 2758
  2795 2798 27b0 27b1 27bf 27c0 2b1b 2b1d 2b50 2b51 2b55 2b56 1f004 1f005 1f0cf 1f0d0 1f18e
  1f18f 1f191 1f19b 1f1e6 1f200 1f201 1f202 1f21a 1f21b 1f22f 1f230 1f232 1f237 1f238 1f23b
  1f250 1f252 1f300 1f321 1f32d 1f336 1f337 1f37d 1f37e 1f394 1f3a0 1f3cb 1f3cf 1f3d4 1f3e0
  1f3f1 1f3f4 1f3f5 1f3f8 1f43f 1f440 1f441 1f442 1f4fd 1f4ff 1f53e 1f54b 1f54f 1f550 1f568
  1f57a 1f57b 1f595 1f597 1f5a4 1f5a5 1f5fb 1f650 1f680 1f6c6 1f6cc 1f6cd 1f6d0 1f6d3 1f6d5
  1f6d8 1f6dc 1f6e0 1f6eb 1f6ed 1f6f4 1f6fd 1f7e0 1f7ec 1f7f0 1f7f1 1f90c 1f93b 1f93c 1f946
  1f947 1fa00 1fa70 1fa7d 1fa80 1fa89 1fa90 1fabe 1fabf 1fac6 1face 1fadc 1fae0 1fae9 1faf0
  1faf9"

/-- Pictographs, assigned or reserved. -/
def extendedPictographic : Boundaries := Boundaries.ofText
  "a9 aa ae af 203c 203d 2049 204a 2122 2123 2139 213a 2194 219a 21a9 21ab 231a 231c 2328 2329
  2388 2389 23cf 23d0 23e9 23f4 23f8 23fb 24c2 24c3 25aa 25ac 25b6 25b7 25c0 25c1 25fb 25ff
  2600 2606 2607 2613 2614 2686 2690 2706 2708 2713 2714 2715 2716 2717 271d 271e 2721 2722
  2728 2729 2733 2735 2744 2745 2747 2748 274c 274d 274e 274f 2753 2756 2757 2758 2763 2768
  2795 2798 27a1 27a2 27b0 27b1 27bf 27c0 2934 2936 2b05 2b08 2b1b 2b1d 2b50 2b51 2b55 2b56
  3030 3031 303d 303e 3297 3298 3299 329a 1f000 1f100 1f10d 1f110 1f12f 1f130 1f16c 1f172
  1f17e 1f180 1f18e 1f18f 1f191 1f19b 1f1ad 1f1e6 1f201 1f210 1f21a 1f21b 1f22f 1f230 1f232
  1f23b 1f23c 1f240 1f249 1f3fb 1f400 1f53e 1f546 1f650 1f680 1f700 1f774 1f780 1f7d5 1f800
  1f80c 1f810 1f848 1f850 1f85a 1f860 1f888 1f890 1f8ae 1f900 1f90c 1f93b 1f93c 1f946 1f947
  1fb00 1fc00 1fffe"

/-- Characters that extend the one before. -/
def extender : Boundaries := Boundaries.ofText
  "b7 b8 2d0 2d2 640 641 7fa 7fb b55 b56 e46 e47 ec6 ec7 180a 180b 1843 1844 1aa7 1aa8 1c36
  1c37 1c7b 1c7c 3005 3006 3031 3036 309d 309f 30fc 30ff a015 a016 a60c a60d a9cf a9d0 a9e6
  a9e7 aa70 aa71 aadd aade aaf3 aaf5 ff70 ff71 10781 10783 1135d 1135e 115c6 115c9 11a98
  11a99 16b42 16b44 16fe0 16fe2 16fe3 16fe4 1e13c 1e13e 1e944 1e947"

/-- Characters that never start a grapheme of their own. -/
def graphemeExtend : Boundaries := Boundaries.ofText
  "300 370 483 48a 591 5be 5bf 5c0 5c1 5c3 5c4 5c6 5c7 5c8 610 61b 64b 660 670 671 6d6 6dd 6df
  6e5 6e7 6e9 6ea 6ee 711 712 730 74b 7a6 7b1 7eb 7f4 7fd 7fe 816 81a 81b 824 825 828 829 82e
  859 85c 898 8a0 8ca 8e2 8e3 903 93a 93b 93c 93d 941 949 94d 94e 951 958 962 964 981 982 9bc
  9bd 9be 9bf 9c1 9c5 9cd 9ce 9d7 9d8 9e2 9e4 9fe 9ff a01 a03 a3c a3d a41 a43 a47 a49 a4b a4e
  a51 a52 a70 a72 a75 a76 a81 a83 abc abd ac1 ac6 ac7 ac9 acd ace ae2 ae4 afa b00 b01 b02 b3c
  b3d b3e b40 b41 b45 b4d b4e b55 b58 b62 b64 b82 b83 bbe bbf bc0 bc1 bcd bce bd7 bd8 c00 c01
  c04 c05 c3c c3d c3e c41 c46 c49 c4a c4e c55 c57 c62 c64 c81 c82 cbc cbd cbf cc0 cc2 cc3 cc6
  cc7 ccc cce cd5 cd7 ce2 ce4 d00 d02 d3b d3d d3e d3f d41 d45 d4d d4e d57 d58 d62 d64 d81 d82
  dca dcb dcf dd0 dd2 dd5 dd6 dd7 ddf de0 e31 e32 e34 e3b e47 e4f eb1 eb2 eb4 ebd ec8 ecf f18
  f1a f35 f36 f37 f38 f39 f3a f71 f7f f80 f85 f86 f88 f8d f98 f99 fbd fc6 fc7 102d 1031 1032
  1038 1039 103b 103d 103f 1058 105a 105e 1061 1071 1075 1082 1083 1085 1087 108d 108e 109d
  109e 135d 1360 1712 1715 1732 1734 1752 1754 1772 1774 17b4 17b6 17b7 17be 17c6 17c7 17c9
  17d4 17dd 17de 180b 180e 180f 1810 1885 1887 18a9 18aa 1920 1923 1927 1929 1932 1933 1939
  193c 1a17 1a19 1a1b 1a1c 1a56 1a57 1a58 1a5f 1a60 1a61 1a62 1a63 1a65 1a6d 1a73 1a7d 1a7f
  1a80 1ab0 1acf 1b00 1b04 1b34 1b3b 1b3c 1b3d 1b42 1b43 1b6b 1b74 1b80 1b82 1ba2 1ba6 1ba8
  1baa 1bab 1bae 1be6 1be7 1be8 1bea 1bed 1bee 1bef 1bf2 1c2c 1c34 1c36 1c38 1cd0 1cd3 1cd4
  1ce1 1ce2 1ce9 1ced 1cee 1cf4 1cf5 1cf8 1cfa 1dc0 1e00 200c 200d 20d0 20f1 2cef 2cf2 2d7f
  2d80 2de0 2e00 302a 3030 3099 309b a66f a673 a674 a67e a69e a6a0 a6f0 a6f2 a802 a803 a806
  a807 a80b a80c a825 a827 a82c a82d a8c4 a8c6 a8e0 a8f2 a8ff a900 a926 a92e a947 a952 a980
  a983 a9b3 a9b4 a9b6 a9ba a9bc a9be a9e5 a9e6 aa29 aa2f aa31 aa33 aa35 aa37 aa43 aa44 aa4c
  aa4d aa7c aa7d aab0 aab1 aab2 aab5 aab7 aab9 aabe aac0 aac1 aac2 aaec aaee aaf6 aaf7 abe5
  abe6 abe8 abe9 abed abee fb1e fb1f fe00 fe10 fe20 fe30 ff9e ffa0 101fd 101fe 102e0 102e1
  10376 1037b 10a01 10a04 10a05 10a07 10a0c 10a10 10a38 10a3b 10a3f 10a40 10ae5 10ae7 10d24
  10d28 10eab 10ead 10efd 10f00 10f46 10f51 10f82 10f86 11001 11002 11038 11047 11070 11071
  11073 11075 1107f 11082 110b3 110b7 110b9 110bb 110c2 110c3 11100 11103 11127 1112c 1112d
  11135 11173 11174 11180 11182 111b6 111bf 111c9 111cd 111cf 111d0 1122f 11232 11234 11235
  11236 11238 1123e 1123f 11241 11242 112df 112e0 112e3 112eb 11300 11302 1133b 1133d 1133e
  1133f 11340 11341 11357 11358 11366 1136d 11370 11375 11438 11440 11442 11445 11446 11447
  1145e 1145f 114b0 114b1 114b3 114b9 114ba 114bb 114bd 114be 114bf 114c1 114c2 114c4 115af
  115b0 115b2 115b6 115bc 115be 115bf 115c1 115dc 115de 11633 1163b 1163d 1163e 1163f 11641
  116ab 116ac 116ad 116ae 116b0 116b6 116b7 116b8 1171d 11720 11722 11726 11727 1172c 1182f
  11838 11839 1183b 11930 11931 1193b 1193d 1193e 1193f 11943 11944 119d4 119d8 119da 119dc
  119e0 119e1 11a01 11a0b 11a33 11a39 11a3b 11a3f 11a47 11a48 11a51 11a57 11a59 11a5c 11a8a
  11a97 11a98 11a9a 11c30 11c37 11c38 11c3e 11c3f 11c40 11c92 11ca8 11caa 11cb1 11cb2 11cb4
  11cb5 11cb7 11d31 11d37 11d3a 11d3b 11d3c 11d3e 11d3f 11d46 11d47 11d48 11d90 11d92 11d95
  11d96 11d97 11d98 11ef3 11ef5 11f00 11f02 11f36 11f3b 11f40 11f41 11f42 11f43 13440 13441
  13447 13456 16af0 16af5 16b30 16b37 16f4f 16f50 16f8f 16f93 16fe4 16fe5 1bc9d 1bc9f 1cf00
  1cf2e 1cf30 1cf47 1d165 1d166 1d167 1d16a 1d16e 1d173 1d17b 1d183 1d185 1d18c 1d1aa 1d1ae
  1d242 1d245 1da00 1da37 1da3b 1da6d 1da75 1da76 1da84 1da85 1da9b 1daa0 1daa1 1dab0 1e000
  1e007 1e008 1e019 1e01b 1e022 1e023 1e025 1e026 1e02b 1e08f 1e090 1e130 1e137 1e2ae 1e2af
  1e2ec 1e2f0 1e4ec 1e4f0 1e8d0 1e8d7 1e944 1e94b e0020 e0080 e0100 e01f0"

/-- Hexadecimal digits of any width. -/
def hexDigit : Boundaries := Boundaries.ofText
  "30 3a 41 47 61 67 ff10 ff1a ff21 ff27 ff41 ff47"

/-- Ideographs. -/
def ideographic : Boundaries := Boundaries.ofText
  "3006 3008 3021 302a 3038 303b 3400 4dc0 4e00 a000 f900 fa6e fa70 fada 16fe4 16fe5 17000
  187f8 18800 18cd6 18d00 18d09 1b170 1b2fc 20000 2a6e0 2a700 2b73a 2b740 2b81e 2b820 2cea2
  2ceb0 2ebe1 2f800 2fa1e 30000 3134b 31350 323b0"

/-- Controls of joining. -/
def joinControl : Boundaries := Boundaries.ofText
  "200c 200e"

/-- Lower-case characters. -/
def lowercase : Boundaries := Boundaries.ofText
  "61 7b aa ab b5 b6 ba bb df f7 f8 100 101 102 103 104 105 106 107 108 109 10a 10b 10c 10d
  10e 10f 110 111 112 113 114 115 116 117 118 119 11a 11b 11c 11d 11e 11f 120 121 122 123 124
  125 126 127 128 129 12a 12b 12c 12d 12e 12f 130 131 132 133 134 135 136 137 139 13a 13b 13c
  13d 13e 13f 140 141 142 143 144 145 146 147 148 14a 14b 14c 14d 14e 14f 150 151 152 153 154
  155 156 157 158 159 15a 15b 15c 15d 15e 15f 160 161 162 163 164 165 166 167 168 169 16a 16b
  16c 16d 16e 16f 170 171 172 173 174 175 176 177 178 17a 17b 17c 17d 17e 181 183 184 185 186
  188 189 18c 18e 192 193 195 196 199 19c 19e 19f 1a1 1a2 1a3 1a4 1a5 1a6 1a8 1a9 1aa 1ac 1ad
  1ae 1b0 1b1 1b4 1b5 1b6 1b7 1b9 1bb 1bd 1c0 1c6 1c7 1c9 1ca 1cc 1cd 1ce 1cf 1d0 1d1 1d2 1d3
  1d4 1d5 1d6 1d7 1d8 1d9 1da 1db 1dc 1de 1df 1e0 1e1 1e2 1e3 1e4 1e5 1e6 1e7 1e8 1e9 1ea 1eb
  1ec 1ed 1ee 1ef 1f1 1f3 1f4 1f5 1f6 1f9 1fa 1fb 1fc 1fd 1fe 1ff 200 201 202 203 204 205 206
  207 208 209 20a 20b 20c 20d 20e 20f 210 211 212 213 214 215 216 217 218 219 21a 21b 21c 21d
  21e 21f 220 221 222 223 224 225 226 227 228 229 22a 22b 22c 22d 22e 22f 230 231 232 233 23a
  23c 23d 23f 241 242 243 247 248 249 24a 24b 24c 24d 24e 24f 294 295 2b9 2c0 2c2 2e0 2e5 345
  346 371 372 373 374 377 378 37a 37e 390 391 3ac 3cf 3d0 3d2 3d5 3d8 3d9 3da 3db 3dc 3dd 3de
  3df 3e0 3e1 3e2 3e3 3e4 3e5 3e6 3e7 3e8 3e9 3ea 3eb 3ec 3ed 3ee 3ef 3f4 3f5 3f6 3f8 3f9 3fb
  3fd 430 460 461 462 463 464 465 466 467 468 469 46a 46b 46c 46d 46e 46f 470 471 472 473 474
  475 476 477 478 479 47a 47b 47c 47d 47e 47f 480 481 482 48b 48c 48d 48e 48f 490 491 492 493
  494 495 496 497 498 499 49a 49b 49c 49d 49e 49f 4a0 4a1 4a2 4a3 4a4 4a5 4a6 4a7 4a8 4a9 4aa
  4ab 4ac 4ad 4ae 4af 4b0 4b1 4b2 4b3 4b4 4b5 4b6 4b7 4b8 4b9 4ba 4bb 4bc 4bd 4be 4bf 4c0 4c2
  4c3 4c4 4c5 4c6 4c7 4c8 4c9 4ca 4cb 4cc 4cd 4ce 4d0 4d1 4d2 4d3 4d4 4d5 4d6 4d7 4d8 4d9 4da
  4db 4dc 4dd 4de 4df 4e0 4e1 4e2 4e3 4e4 4e5 4e6 4e7 4e8 4e9 4ea 4eb 4ec 4ed 4ee 4ef 4f0 4f1
  4f2 4f3 4f4 4f5 4f6 4f7 4f8 4f9 4fa 4fb 4fc 4fd 4fe 4ff 500 501 502 503 504 505 506 507 508
  509 50a 50b 50c 50d 50e 50f 510 511 512 513 514 515 516 517 518 519 51a 51b 51c 51d 51e 51f
  520 521 522 523 524 525 526 527 528 529 52a 52b 52c 52d 52e 52f 530 560 589 10d0 10fb 10fc
  1100 13f8 13fe 1c80 1c89 1d00 1dc0 1e01 1e02 1e03 1e04 1e05 1e06 1e07 1e08 1e09 1e0a 1e0b
  1e0c 1e0d 1e0e 1e0f 1e10 1e11 1e12 1e13 1e14 1e15 1e16 1e17 1e18 1e19 1e1a 1e1b 1e1c 1e1d
  1e1e 1e1f 1e20 1e21 1e22 1e23 1e24 1e25 1e26 1e27 1e28 1e29 1e2a 1e2b 1e2c 1e2d 1e2e 1e2f
  1e30 1e31 1e32 1e33 1e34 1e35 1e36 1e37 1e38 1e39 1e3a 1e3b 1e3c 1e3d 1e3e 1e3f 1e40 1e41
  1e42 1e43 1e44 1e45 1e46 1e47 1e48 1e49 1e4a 1e4b 1e4c 1e4d 1e4e 1e4f 1e50 1e51 1e52 1e53
  1e54 1e55 1e56 1e57 1e58 1e59 1e5a 1e5b 1e5c 1e5d 1e5e 1e5f 1e60 1e61 1e62 1e63 1e64 1e65
  1e66 1e67 1e68 1e69 1e6a 1e6b 1e6c 1e6d 1e6e 1e6f 1e70 1e71 1e72 1e73 1e74 1e75 1e76 1e77
  1e78 1e79 1e7a 1e7b 1e7c 1e7d 1e7e 1e7f 1e80 1e81 1e82 1e83 1e84 1e85 1e86 1e87 1e88 1e89
  1e8a 1e8b 1e8c 1e8d 1e8e 1e8f 1e90 1e91 1e92 1e93 1e94 1e95 1e9e 1e9f 1ea0 1ea1 1ea2 1ea3
  1ea4 1ea5 1ea6 1ea7 1ea8 1ea9 1eaa 1eab 1eac 1ead 1eae 1eaf 1eb0 1eb1 1eb2 1eb3 1eb4 1eb5
  1eb6 1eb7 1eb8 1eb9 1eba 1ebb 1ebc 1ebd 1ebe 1ebf 1ec0 1ec1 1ec2 1ec3 1ec4 1ec5 1ec6 1ec7
  1ec8 1ec9 1eca 1ecb 1ecc 1ecd 1ece 1ecf 1ed0 1ed1 1ed2 1ed3 1ed4 1ed5 1ed6 1ed7 1ed8 1ed9
  1eda 1edb 1edc 1edd 1ede 1edf 1ee0 1ee1 1ee2 1ee3 1ee4 1ee5 1ee6 1ee7 1ee8 1ee9 1eea 1eeb
  1eec 1eed 1eee 1eef 1ef0 1ef1 1ef2 1ef3 1ef4 1ef5 1ef6 1ef7 1ef8 1ef9 1efa 1efb 1efc 1efd
  1efe 1eff 1f08 1f10 1f16 1f20 1f28 1f30 1f38 1f40 1f46 1f50 1f58 1f60 1f68 1f70 1f7e 1f80
  1f88 1f90 1f98 1fa0 1fa8 1fb0 1fb5 1fb6 1fb8 1fbe 1fbf 1fc2 1fc5 1fc6 1fc8 1fd0 1fd4 1fd6
  1fd8 1fe0 1fe8 1ff2 1ff5 1ff6 1ff8 2071 2072 207f 2080 2090 209d 210a 210b 210e 2110 2113
  2114 212f 2130 2134 2135 2139 213a 213c 213e 2146 214a 214e 214f 2170 2180 2184 2185 24d0
  24ea 2c30 2c60 2c61 2c62 2c65 2c67 2c68 2c69 2c6a 2c6b 2c6c 2c6d 2c71 2c72 2c73 2c75 2c76
  2c7e 2c81 2c82 2c83 2c84 2c85 2c86 2c87 2c88 2c89 2c8a 2c8b 2c8c 2c8d 2c8e 2c8f 2c90 2c91
  2c92 2c93 2c94 2c95 2c96 2c97 2c98 2c99 2c9a 2c9b 2c9c 2c9d 2c9e 2c9f 2ca0 2ca1 2ca2 2ca3
  2ca4 2ca5 2ca6 2ca7 2ca8 2ca9 2caa 2cab 2cac 2cad 2cae 2caf 2cb0 2cb1 2cb2 2cb3 2cb4 2cb5
  2cb6 2cb7 2cb8 2cb9 2cba 2cbb 2cbc 2cbd 2cbe 2cbf 2cc0 2cc1 2cc2 2cc3 2cc4 2cc5 2cc6 2cc7
  2cc8 2cc9 2cca 2ccb 2ccc 2ccd 2cce 2ccf 2cd0 2cd1 2cd2 2cd3 2cd4 2cd5 2cd6 2cd7 2cd8 2cd9
  2cda 2cdb 2cdc 2cdd 2cde 2cdf 2ce0 2ce1 2ce2 2ce3 2ce5 2cec 2ced 2cee 2cef 2cf3 2cf4 2d00
  2d26 2d27 2d28 2d2d 2d2e a641 a642 a643 a644 a645 a646 a647 a648 a649 a64a a64b a64c a64d
  a64e a64f a650 a651 a652 a653 a654 a655 a656 a657 a658 a659 a65a a65b a65c a65d a65e a65f
  a660 a661 a662 a663 a664 a665 a666 a667 a668 a669 a66a a66b a66c a66d a66e a681 a682 a683
  a684 a685 a686 a687 a688 a689 a68a a68b a68c a68d a68e a68f a690 a691 a692 a693 a694 a695
  a696 a697 a698 a699 a69a a69b a69e a723 a724 a725 a726 a727 a728 a729 a72a a72b a72c a72d
  a72e a72f a732 a733 a734 a735 a736 a737 a738 a739 a73a a73b a73c a73d a73e a73f a740 a741
  a742 a743 a744 a745 a746 a747 a748 a749 a74a a74b a74c a74d a74e a74f a750 a751 a752 a753
  a754 a755 a756 a757 a758 a759 a75a a75b a75c a75d a75e a75f a760 a761 a762 a763 a764 a765
  a766 a767 a768 a769 a76a a76b a76c a76d a76e a76f a779 a77a a77b a77c a77d a77f a780 a781
  a782 a783 a784 a785 a786 a787 a788 a78c a78d a78e a78f a791 a792 a793 a796 a797 a798 a799
  a79a a79b a79c a79d a79e a79f a7a0 a7a1 a7a2 a7a3 a7a4 a7a5 a7a6 a7a7 a7a8 a7a9 a7aa a7af
  a7b0 a7b5 a7b6 a7b7 a7b8 a7b9 a7ba a7bb a7bc a7bd a7be a7bf a7c0 a7c1 a7c2 a7c3 a7c4 a7c8
  a7c9 a7ca a7cb a7d1 a7d2 a7d3 a7d4 a7d5 a7d6 a7d7 a7d8 a7d9 a7da a7f2 a7f5 a7f6 a7f7 a7f8
  a7fb ab30 ab5b ab5c ab6a ab70 abc0 fb00 fb07 fb13 fb18 ff41 ff5b 10428 10450 104d8 104fc
  10597 105a2 105a3 105b2 105b3 105ba 105bb 105bd 10780 10781 10783 10786 10787 107b1 107b2
  107bb 10cc0 10cf3 118c0 118e0 16e60 16e80 1d41a 1d434 1d44e 1d455 1d456 1d468 1d482 1d49c
  1d4b6 1d4ba 1d4bb 1d4bc 1d4bd 1d4c4 1d4c5 1d4d0 1d4ea 1d504 1d51e 1d538 1d552 1d56c 1d586
  1d5a0 1d5ba 1d5d4 1d5ee 1d608 1d622 1d63c 1d656 1d670 1d68a 1d6a6 1d6c2 1d6db 1d6dc 1d6e2
  1d6fc 1d715 1d716 1d71c 1d736 1d74f 1d750 1d756 1d770 1d789 1d78a 1d790 1d7aa 1d7c3 1d7c4
  1d7ca 1d7cb 1d7cc 1df00 1df0a 1df0b 1df1f 1df25 1df2b 1e030 1e06e 1e922 1e944"

/-- Mathematical characters. -/
def math : Boundaries := Boundaries.ofText
  "2b 2c 3c 3f 5e 5f 7c 7d 7e 7f ac ad b1 b2 d7 d8 f7 f8 3d0 3d3 3d5 3d6 3f0 3f2 3f4 3f7 606
  609 2016 2017 2032 2035 2040 2041 2044 2045 2052 2053 2061 2065 207a 207f 208a 208f 20d0
  20dd 20e1 20e2 20e5 20e7 20eb 20f0 2102 2103 2107 2108 210a 2114 2115 2116 2118 211e 2124
  2125 2128 212a 212c 212e 212f 2132 2133 2139 213c 214a 214b 214c 2190 21a8 21a9 21af 21b0
  21b2 21b6 21b8 21bc 21dc 21dd 21de 21e4 21e6 21f4 2300 2308 230c 2320 2322 237c 237d 239b
  23b6 23b7 23b8 23d0 23d1 23dc 23e3 25a0 25a2 25ae 25b8 25bc 25c2 25c6 25c8 25ca 25cc 25cf
  25d4 25e2 25e3 25e4 25e5 25e7 25ed 25f8 2600 2605 2607 2640 2641 2642 2643 2660 2664 266d
  2670 27c0 2800 2900 2b00 2b30 2b45 2b47 2b4d fb29 fb2a fe61 fe67 fe68 fe69 ff0b ff0c ff1c
  ff1f ff3c ff3d ff3e ff3f ff5c ff5d ff5e ff5f ffe2 ffe3 ffe9 ffed 1d400 1d455 1d456 1d49d
  1d49e 1d4a0 1d4a2 1d4a3 1d4a5 1d4a7 1d4a9 1d4ad 1d4ae 1d4ba 1d4bb 1d4bc 1d4bd 1d4c4 1d4c5
  1d506 1d507 1d50b 1d50d 1d515 1d516 1d51d 1d51e 1d53a 1d53b 1d53f 1d540 1d545 1d546 1d547
  1d54a 1d551 1d552 1d6a6 1d6a8 1d7cc 1d7ce 1d800 1ee00 1ee04 1ee05 1ee20 1ee21 1ee23 1ee24
  1ee25 1ee27 1ee28 1ee29 1ee33 1ee34 1ee38 1ee39 1ee3a 1ee3b 1ee3c 1ee42 1ee43 1ee47 1ee48
  1ee49 1ee4a 1ee4b 1ee4c 1ee4d 1ee50 1ee51 1ee53 1ee54 1ee55 1ee57 1ee58 1ee59 1ee5a 1ee5b
  1ee5c 1ee5d 1ee5e 1ee5f 1ee60 1ee61 1ee63 1ee64 1ee65 1ee67 1ee6b 1ee6c 1ee73 1ee74 1ee78
  1ee79 1ee7d 1ee7e 1ee7f 1ee80 1ee8a 1ee8b 1ee9c 1eea1 1eea4 1eea5 1eeaa 1eeab 1eebc 1eef0
  1eef2"

/-- Code points that never become characters. -/
def noncharacterCodePoint : Boundaries := Boundaries.ofText
  "fdd0 fdf0 fffe 10000 1fffe 20000 2fffe 30000 3fffe 40000 4fffe 50000 5fffe 60000 6fffe
  70000 7fffe 80000 8fffe 90000 9fffe a0000 afffe b0000 bfffe c0000 cfffe d0000 dfffe e0000
  efffe f0000 ffffe 100000 10fffe 110000"

/-- Characters that are kept for the syntax of patterns. -/
def patternSyntax : Boundaries := Boundaries.ofText
  "21 30 3a 41 5b 5f 60 61 7b 7f a1 a8 a9 aa ab ad ae af b0 b2 b6 b7 bb bc bf c0 d7 d8 f7 f8
  2010 2028 2030 203f 2041 2054 2055 205f 2190 2460 2500 2776 2794 2c00 2e00 2e80 3001 3004
  3008 3021 3030 3031 fd3e fd40 fe45 fe47"

/-- Blanks inside patterns. -/
def patternWhiteSpace : Boundaries := Boundaries.ofText
  "9 e 20 21 85 86 200e 2010 2028 202a"

/-- Quotation marks. -/
def quotationMark : Boundaries := Boundaries.ofText
  "22 23 27 28 ab ac bb bc 2018 2020 2039 203b 2e42 2e43 300c 3010 301d 3020 fe41 fe45 ff02
  ff03 ff07 ff08 ff62 ff64"

/-- Radicals of ideographs. -/
def radical : Boundaries := Boundaries.ofText
  "2e80 2e9a 2e9b 2ef4 2f00 2fd6"

/-- Letters of regions. -/
def regionalIndicator : Boundaries := Boundaries.ofText
  "1f1e6 1f200"

/-- Characters that end a sentence. -/
def sentenceTerminal : Boundaries := Boundaries.ofText
  "21 22 2e 2f 3f 40 589 58a 61d 620 6d4 6d5 700 703 7f9 7fa 837 838 839 83a 83d 83f 964 966
  104a 104c 1362 1363 1367 1369 166e 166f 1735 1737 1803 1804 1809 180a 1944 1946 1aa8 1aac
  1b5a 1b5c 1b5e 1b60 1b7d 1b7f 1c3b 1c3d 1c7e 1c80 203c 203e 2047 204a 2e2e 2e2f 2e3c 2e3d
  2e53 2e55 3002 3003 a4ff a500 a60e a610 a6f3 a6f4 a6f7 a6f8 a876 a878 a8ce a8d0 a92f a930
  a9c8 a9ca aa5d aa60 aaf0 aaf2 abeb abec fe52 fe53 fe56 fe58 ff01 ff02 ff0e ff0f ff1f ff20
  ff61 ff62 10a56 10a58 10f55 10f5a 10f86 10f8a 11047 11049 110be 110c2 11141 11144 111c5
  111c7 111cd 111ce 111de 111e0 11238 1123a 1123b 1123d 112a9 112aa 1144b 1144d 115c2 115c4
  115c9 115d8 11641 11643 1173c 1173f 11944 11945 11946 11947 11a42 11a44 11a9b 11a9d 11c41
  11c43 11ef7 11ef9 11f43 11f45 16a6e 16a70 16af5 16af6 16b37 16b39 16b44 16b45 16e98 16e99
  1bc9f 1bca0 1da88 1da89"

/-- Characters with a dot that an accent replaces. -/
def softDotted : Boundaries := Boundaries.ofText
  "69 6b 12f 130 249 24a 268 269 29d 29e 2b2 2b3 3f3 3f4 456 457 458 459 1d62 1d63 1d96 1d97
  1da4 1da5 1da8 1da9 1e2d 1e2e 1ecb 1ecc 2071 2072 2148 214a 2c7c 2c7d 1d422 1d424 1d456
  1d458 1d48a 1d48c 1d4be 1d4c0 1d4f2 1d4f4 1d526 1d528 1d55a 1d55c 1d58e 1d590 1d5c2 1d5c4
  1d5f6 1d5f8 1d62a 1d62c 1d65e 1d660 1d692 1d694 1df1a 1df1b 1e04c 1e04e 1e068 1e069"

/-- Punctuation that ends a unit of text. -/
def terminalPunctuation : Boundaries := Boundaries.ofText
  "21 22 2c 2d 2e 2f 3a 3c 3f 40 37e 37f 387 388 589 58a 5c3 5c4 60c 60d 61b 61c 61d 620 6d4
  6d5 700 70b 70c 70d 7f8 7fa 830 83f 85e 85f 964 966 e5a e5c f08 f09 f0d f13 104a 104c 1361
  1369 166e 166f 16eb 16ee 1735 1737 17d4 17d7 17da 17db 1802 1806 1808 180a 1944 1946 1aa8
  1aac 1b5a 1b5c 1b5d 1b60 1b7d 1b7f 1c3b 1c40 1c7e 1c80 203c 203e 2047 204a 2e2e 2e2f 2e3c
  2e3d 2e41 2e42 2e4c 2e4d 2e4e 2e50 2e53 2e55 3001 3003 a4fe a500 a60d a610 a6f3 a6f8 a876
  a878 a8ce a8d0 a92f a930 a9c7 a9ca aa5d aa60 aadf aae0 aaf0 aaf2 abeb abec fe50 fe53 fe54
  fe58 ff01 ff02 ff0c ff0d ff0e ff0f ff1a ff1c ff1f ff20 ff61 ff62 ff64 ff65 1039f 103a0
  103d0 103d1 10857 10858 1091f 10920 10a56 10a58 10af0 10af6 10b3a 10b40 10b99 10b9d 10f55
  10f5a 10f86 10f8a 11047 1104e 110be 110c2 11141 11144 111c5 111c7 111cd 111ce 111de 111e0
  11238 1123d 112a9 112aa 1144b 1144e 1145a 1145c 115c2 115c6 115c9 115d8 11641 11643 1173c
  1173f 11944 11945 11946 11947 11a42 11a44 11a9b 11a9d 11aa1 11aa3 11c41 11c44 11c71 11c72
  11ef7 11ef9 11f43 11f45 12470 12475 16a6e 16a70 16af5 16af6 16b37 16b3a 16b44 16b45 16e97
  16e99 1bc9f 1bca0 1da87 1da8b"

/-- Unified ideographs. -/
def unifiedIdeograph : Boundaries := Boundaries.ofText
  "3400 4dc0 4e00 a000 fa0e fa10 fa11 fa12 fa13 fa15 fa1f fa20 fa21 fa22 fa23 fa25 fa27 fa2a
  20000 2a6e0 2a700 2b73a 2b740 2b81e 2b820 2cea2 2ceb0 2ebe1 30000 3134b 31350 323b0"

/-- Upper-case characters. -/
def uppercase : Boundaries := Boundaries.ofText
  "41 5b c0 d7 d8 df 100 101 102 103 104 105 106 107 108 109 10a 10b 10c 10d 10e 10f 110 111
  112 113 114 115 116 117 118 119 11a 11b 11c 11d 11e 11f 120 121 122 123 124 125 126 127 128
  129 12a 12b 12c 12d 12e 12f 130 131 132 133 134 135 136 137 139 13a 13b 13c 13d 13e 13f 140
  141 142 143 144 145 146 147 148 14a 14b 14c 14d 14e 14f 150 151 152 153 154 155 156 157 158
  159 15a 15b 15c 15d 15e 15f 160 161 162 163 164 165 166 167 168 169 16a 16b 16c 16d 16e 16f
  170 171 172 173 174 175 176 177 178 17a 17b 17c 17d 17e 181 183 184 185 186 188 189 18c 18e
  192 193 195 196 199 19c 19e 19f 1a1 1a2 1a3 1a4 1a5 1a6 1a8 1a9 1aa 1ac 1ad 1ae 1b0 1b1 1b4
  1b5 1b6 1b7 1b9 1bc 1bd 1c4 1c5 1c7 1c8 1ca 1cb 1cd 1ce 1cf 1d0 1d1 1d2 1d3 1d4 1d5 1d6 1d7
  1d8 1d9 1da 1db 1dc 1de 1df 1e0 1e1 1e2 1e3 1e4 1e5 1e6 1e7 1e8 1e9 1ea 1eb 1ec 1ed 1ee 1ef
  1f1 1f2 1f4 1f5 1f6 1f9 1fa 1fb 1fc 1fd 1fe 1ff 200 201 202 203 204 205 206 207 208 209 20a
  20b 20c 20d 20e 20f 210 211 212 213 214 215 216 217 218 219 21a 21b 21c 21d 21e 21f 220 221
  222 223 224 225 226 227 228 229 22a 22b 22c 22d 22e 22f 230 231 232 233 23a 23c 23d 23f 241
  242 243 247 248 249 24a 24b 24c 24d 24e 24f 370 371 372 373 376 377 37f 380 386 387 388 38b
  38c 38d 38e 390 391 3a2 3a3 3ac 3cf 3d0 3d2 3d5 3d8 3d9 3da 3db 3dc 3dd 3de 3df 3e0 3e1 3e2
  3e3 3e4 3e5 3e6 3e7 3e8 3e9 3ea 3eb 3ec 3ed 3ee 3ef 3f4 3f5 3f7 3f8 3f9 3fb 3fd 430 460 461
  462 463 464 465 466 467 468 469 46a 46b 46c 46d 46e 46f 470 471 472 473 474 475 476 477 478
  479 47a 47b 47c 47d 47e 47f 480 481 48a 48b 48c 48d 48e 48f 490 491 492 493 494 495 496 497
  498 499 49a 49b 49c 49d 49e 49f 4a0 4a1 4a2 4a3 4a4 4a5 4a6 4a7 4a8 4a9 4aa 4ab 4ac 4ad 4ae
  4af 4b0 4b1 4b2 4b3 4b4 4b5 4b6 4b7 4b8 4b9 4ba 4bb 4bc 4bd 4be 4bf 4c0 4c2 4c3 4c4 4c5 4c6
  4c7 4c8 4c9 4ca 4cb 4cc 4cd 4ce 4d0 4d1 4d2 4d3 4d4 4d5 4d6 4d7 4d8 4d9 4da 4db 4dc 4dd 4de
  4df 4e0 4e1 4e2 4e3 4e4 4e5 4e6 4e7 4e8 4e9 4ea 4eb 4ec 4ed 4ee 4ef 4f0 4f1 4f2 4f3 4f4 4f5
  4f6 4f7 4f8 4f9 4fa 4fb 4fc 4fd 4fe 4ff 500 501 502 503 504 505 506 507 508 509 50a 50b 50c
  50d 50e 50f 510 511 512 513 514 515 516 517 518 519 51a 51b 51c 51d 51e 51f 520 521 522 523
  524 525 526 527 528 529 52a 52b 52c 52d 52e 52f 531 557 10a0 10c6 10c7 10c8 10cd 10ce 13a0
  13f6 1c90 1cbb 1cbd 1cc0 1e00 1e01 1e02 1e03 1e04 1e05 1e06 1e07 1e08 1e09 1e0a 1e0b 1e0c
  1e0d 1e0e 1e0f 1e10 1e11 1e12 1e13 1e14 1e15 1e16 1e17 1e18 1e19 1e1a 1e1b 1e1c 1e1d 1e1e
  1e1f 1e20 1e21 1e22 1e23 1e24 1e25 1e26 1e27 1e28 1e29 1e2a 1e2b 1e2c 1e2d 1e2e 1e2f 1e30
  1e31 1e32 1e33 1e34 1e35 1e36 1e37 1e38 1e39 1e3a 1e3b 1e3c 1e3d 1e3e 1e3f 1e40 1e41 1e42
  1e43 1e44 1e45 1e46 1e47 1e48 1e49 1e4a 1e4b 1e4c 1e4d 1e4e 1e4f 1e50 1e51 1e52 1e53 1e54
  1e55 1e56 1e57 1e58 1e59 1e5a 1e5b 1e5c 1e5d 1e5e 1e5f 1e60 1e61 1e62 1e63 1e64 1e65 1e66
  1e67 1e68 1e69 1e6a 1e6b 1e6c 1e6d 1e6e 1e6f 1e70 1e71 1e72 1e73 1e74 1e75 1e76 1e77 1e78
  1e79 1e7a 1e7b 1e7c 1e7d 1e7e 1e7f 1e80 1e81 1e82 1e83 1e84 1e85 1e86 1e87 1e88 1e89 1e8a
  1e8b 1e8c 1e8d 1e8e 1e8f 1e90 1e91 1e92 1e93 1e94 1e95 1e9e 1e9f 1ea0 1ea1 1ea2 1ea3 1ea4
  1ea5 1ea6 1ea7 1ea8 1ea9 1eaa 1eab 1eac 1ead 1eae 1eaf 1eb0 1eb1 1eb2 1eb3 1eb4 1eb5 1eb6
  1eb7 1eb8 1eb9 1eba 1ebb 1ebc 1ebd 1ebe 1ebf 1ec0 1ec1 1ec2 1ec3 1ec4 1ec5 1ec6 1ec7 1ec8
  1ec9 1eca 1ecb 1ecc 1ecd 1ece 1ecf 1ed0 1ed1 1ed2 1ed3 1ed4 1ed5 1ed6 1ed7 1ed8 1ed9 1eda
  1edb 1edc 1edd 1ede 1edf 1ee0 1ee1 1ee2 1ee3 1ee4 1ee5 1ee6 1ee7 1ee8 1ee9 1eea 1eeb 1eec
  1eed 1eee 1eef 1ef0 1ef1 1ef2 1ef3 1ef4 1ef5 1ef6 1ef7 1ef8 1ef9 1efa 1efb 1efc 1efd 1efe
  1eff 1f08 1f10 1f18 1f1e 1f28 1f30 1f38 1f40 1f48 1f4e 1f59 1f5a 1f5b 1f5c 1f5d 1f5e 1f5f
  1f60 1f68 1f70 1fb8 1fbc 1fc8 1fcc 1fd8 1fdc 1fe8 1fed 1ff8 1ffc 2102 2103 2107 2108 210b
  210e 2110 2113 2115 2116 2119 211e 2124 2125 2126 2127 2128 2129 212a 212e 2130 2134 213e
  2140 2145 2146 2160 2170 2183 2184 24b6 24d0 2c00 2c30 2c60 2c61 2c62 2c65 2c67 2c68 2c69
  2c6a 2c6b 2c6c 2c6d 2c71 2c72 2c73 2c75 2c76 2c7e 2c81 2c82 2c83 2c84 2c85 2c86 2c87 2c88
  2c89 2c8a 2c8b 2c8c 2c8d 2c8e 2c8f 2c90 2c91 2c92 2c93 2c94 2c95 2c96 2c97 2c98 2c99 2c9a
  2c9b 2c9c 2c9d 2c9e 2c9f 2ca0 2ca1 2ca2 2ca3 2ca4 2ca5 2ca6 2ca7 2ca8 2ca9 2caa 2cab 2cac
  2cad 2cae 2caf 2cb0 2cb1 2cb2 2cb3 2cb4 2cb5 2cb6 2cb7 2cb8 2cb9 2cba 2cbb 2cbc 2cbd 2cbe
  2cbf 2cc0 2cc1 2cc2 2cc3 2cc4 2cc5 2cc6 2cc7 2cc8 2cc9 2cca 2ccb 2ccc 2ccd 2cce 2ccf 2cd0
  2cd1 2cd2 2cd3 2cd4 2cd5 2cd6 2cd7 2cd8 2cd9 2cda 2cdb 2cdc 2cdd 2cde 2cdf 2ce0 2ce1 2ce2
  2ce3 2ceb 2cec 2ced 2cee 2cf2 2cf3 a640 a641 a642 a643 a644 a645 a646 a647 a648 a649 a64a
  a64b a64c a64d a64e a64f a650 a651 a652 a653 a654 a655 a656 a657 a658 a659 a65a a65b a65c
  a65d a65e a65f a660 a661 a662 a663 a664 a665 a666 a667 a668 a669 a66a a66b a66c a66d a680
  a681 a682 a683 a684 a685 a686 a687 a688 a689 a68a a68b a68c a68d a68e a68f a690 a691 a692
  a693 a694 a695 a696 a697 a698 a699 a69a a69b a722 a723 a724 a725 a726 a727 a728 a729 a72a
  a72b a72c a72d a72e a72f a732 a733 a734 a735 a736 a737 a738 a739 a73a a73b a73c a73d a73e
  a73f a740 a741 a742 a743 a744 a745 a746 a747 a748 a749 a74a a74b a74c a74d a74e a74f a750
  a751 a752 a753 a754 a755 a756 a757 a758 a759 a75a a75b a75c a75d a75e a75f a760 a761 a762
  a763 a764 a765 a766 a767 a768 a769 a76a a76b a76c a76d a76e a76f a779 a77a a77b a77c a77d
  a77f a780 a781 a782 a783 a784 a785 a786 a787 a78b a78c a78d a78e a790 a791 a792 a793 a796
  a797 a798 a799 a79a a79b a79c a79d a79e a79f a7a0 a7a1 a7a2 a7a3 a7a4 a7a5 a7a6 a7a7 a7a8
  a7a9 a7aa a7af a7b0 a7b5 a7b6 a7b7 a7b8 a7b9 a7ba a7bb a7bc a7bd a7be a7bf a7c0 a7c1 a7c2
  a7c3 a7c4 a7c8 a7c9 a7ca a7d0 a7d1 a7d6 a7d7 a7d8 a7d9 a7f5 a7f6 ff21 ff3b 10400 10428
  104b0 104d4 10570 1057b 1057c 1058b 1058c 10593 10594 10596 10c80 10cb3 118a0 118c0 16e40
  16e60 1d400 1d41a 1d434 1d44e 1d468 1d482 1d49c 1d49d 1d49e 1d4a0 1d4a2 1d4a3 1d4a5 1d4a7
  1d4a9 1d4ad 1d4ae 1d4b6 1d4d0 1d4ea 1d504 1d506 1d507 1d50b 1d50d 1d515 1d516 1d51d 1d538
  1d53a 1d53b 1d53f 1d540 1d545 1d546 1d547 1d54a 1d551 1d56c 1d586 1d5a0 1d5ba 1d5d4 1d5ee
  1d608 1d622 1d63c 1d656 1d670 1d68a 1d6a8 1d6c1 1d6e2 1d6fb 1d71c 1d735 1d756 1d76f 1d790
  1d7a9 1d7ca 1d7cb 1e900 1e922 1f130 1f14a 1f150 1f16a 1f170 1f18a"

/-- Selectors of variants. -/
def variationSelector : Boundaries := Boundaries.ofText
  "180b 180e 180f 1810 fe00 fe10 e0100 e01f0"

/-- Blanks. -/
def whiteSpace : Boundaries := Boundaries.ofText
  "9 e 20 21 85 86 a0 a1 1680 1681 2000 200b 2028 202a 202f 2030 205f 2060 3000 3001"

/-- The sets by their names. -/
def sets : List (List String × Boundaries) :=
  [(["Alpha", "Alphabetic"], alphabetic),
    (["AHex", "ASCII_Hex_Digit"], asciiHexDigit),
    (["Dash"], dash),
    (["DI", "Default_Ignorable_Code_Point"], defaultIgnorableCodePoint),
    (["Dia", "Diacritic"], diacritic),
    (["Emoji"], emoji),
    (["EMod", "Emoji_Modifier"], emojiModifier),
    (["EPres", "Emoji_Presentation"], emojiPresentation),
    (["ExtPict", "Extended_Pictographic"], extendedPictographic),
    (["Ext", "Extender"], extender),
    (["Gr_Ext", "Grapheme_Extend"], graphemeExtend),
    (["Hex", "Hex_Digit"], hexDigit),
    (["Ideo", "Ideographic"], ideographic),
    (["Join_C", "Join_Control"], joinControl),
    (["Lower", "Lowercase"], lowercase),
    (["Math"], math),
    (["NChar", "Noncharacter_Code_Point"], noncharacterCodePoint),
    (["Pat_Syn", "Pattern_Syntax"], patternSyntax),
    (["Pat_WS", "Pattern_White_Space"], patternWhiteSpace),
    (["QMark", "Quotation_Mark"], quotationMark),
    (["Radical"], radical),
    (["RI", "Regional_Indicator"], regionalIndicator),
    (["STerm", "Sentence_Terminal"], sentenceTerminal),
    (["SD", "Soft_Dotted"], softDotted),
    (["Term", "Terminal_Punctuation"], terminalPunctuation),
    (["UIdeo", "Unified_Ideograph"], unifiedIdeograph),
    (["Upper", "Uppercase"], uppercase),
    (["VS", "Variation_Selector"], variationSelector),
    (["WSpace", "White_Space", "Space"], whiteSpace)]

end JsonValidation.Unicode.Binary
