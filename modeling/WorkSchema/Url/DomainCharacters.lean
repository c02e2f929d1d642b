import WorkSchema.Text.CodeSet

/-!
The character properties that decide whether an internationalised domain name
is acceptable: how characters are mapped, which way they are written, and how
they join.
-/

namespace WorkSchema.DomainCharacters

/-- Characters that no domain name may hold. -/
def disallowed : CodeSet := .ofTable
  "80-9f 378-379 380-383 38b 38d 3a2 530 557-558 58b-58c 590 5c8-5cf 5eb-5ee 5f5-605 61c 6dd
   70e-70f 74b-74c 7b2-7bf 7fb-7fc 82e-82f 83f 85c-85d 85f 86b-86f 890-896 8e2 984 98d-98e
   991-992 9a9 9b1 9b3-9b5 9ba-9bb 9c5-9c6 9c9-9ca 9cf-9d6 9d8-9db 9de 9e4-9e5 9ff-a00 a04
   a0b-a0e a11-a12 a29 a31 a34 a37 a3a-a3b a3d a43-a46 a49-a4a a4e-a50 a52-a58 a5d a5f-a65
   a77-a80 a84 a8e a92 aa9 ab1 ab4 aba-abb ac6 aca ace-acf ad1-adf ae4-ae5 af2-af8 b00 b04
   b0d-b0e b11-b12 b29 b31 b34 b3a-b3b b45-b46 b49-b4a b4e-b54 b58-b5b b5e b64-b65 b78-b81 b84
   b8b-b8d b91 b96-b98 b9b b9d ba0-ba2 ba5-ba7 bab-bad bba-bbd bc3-bc5 bc9 bce-bcf bd1-bd6
   bd8-be5 bfb-bff c0d c11 c29 c3a-c3b c45 c49 c4e-c54 c57 c5b c5e-c5f c64-c65 c70-c76 c8d c91
   ca9 cb4 cba-cbb cc5 cc9 cce-cd4 cd7-cdb cdf ce4-ce5 cf0 cf4-cff d0d d11 d45 d49 d50-d53
   d64-d65 d80 d84 d97-d99 db2 dbc dbe-dbf dc7-dc9 dcb-dce dd5 dd7 de0-de5 df0-df1 df5-e00
   e3b-e3e e5c-e80 e83 e85 e8b ea4 ea6 ebe-ebf ec5 ec7 ecf eda-edb ee0-eff f48 f6d-f70 f98 fbd
   fcd fdb-fff 10c6 10c8-10cc 10ce-10cf 1249 124e-124f 1257 1259 125e-125f 1289 128e-128f 12b1
   12b6-12b7 12bf 12c1 12c6-12c7 12d7 1311 1316-1317 135b-135c 137d-137f 139a-139f 13f6-13f7
   13fe-13ff 1680 169d-169f 16f9-16ff 1716-171e 1737-173f 1754-175f 176d 1771 1774-177f
   17de-17df 17ea-17ef 17fa-17ff 181a-181f 1879-187f 18ab-18af 18f6-18ff 191f 192c-192f
   193c-193f 1941-1943 196e-196f 1975-197f 19ac-19af 19ca-19cf 19db-19dd 1a1c-1a1d 1a5f
   1a7d-1a7e 1a8a-1a8f 1a9a-1a9f 1aae-1aaf 1ade-1adf 1aec-1aff 1b4d 1bf4-1bfb 1c38-1c3a
   1c4a-1c4c 1c8b-1c8f 1cbb-1cbc 1cc8-1ccf 1cfb-1cff 1f16-1f17 1f1e-1f1f 1f46-1f47 1f4e-1f4f
   1f58 1f5a 1f5c 1f5e 1f7e-1f7f 1fb5 1fc5 1fd4-1fd5 1fdc 1ff0-1ff1 1ff5 1fff 200e-200f
   2024-2026 2028-202e 2065-2069 2072-2073 208f 209d-209f 20c2-20cf 20f1-20ff 218c-218f
   242a-243f 244b-245f 2488-249b 2b74-2b75 2cf4-2cf8 2d26 2d28-2d2c 2d2e-2d2f 2d68-2d6e
   2d71-2d7e 2d97-2d9f 2da7 2daf 2db7 2dbf 2dc7 2dcf 2dd7 2ddf 2e5e-2e7f 2e9a 2ef4-2eff
   2fd6-2fff 3040 3097-3098 3100-3104 3130 318f 31e6-31ef 321f 33c2 33c7 33d8 a48d-a48f
   a4c7-a4cf a62c-a63f a6f8-a6ff a7dd-a7f0 a82d-a82f a83a-a83f a878-a87f a8c6-a8cd a8da-a8df
   a954-a95e a97d-a97f a9ce a9da-a9dd a9ff aa37-aa3f aa4e-aa4f aa5a-aa5b aac3-aada aaf7-ab00
   ab07-ab08 ab0f-ab10 ab17-ab1f ab27 ab2f ab6c-ab6f abee-abef abfa-abff d7a4-d7af d7c7-d7ca
   d7fc-f8ff fa6e-fa6f fada-faff fb07-fb12 fb18-fb1c fb37 fb3d fb3f fb42 fb45 fdd0-fdef fe12
   fe19-fe1f fe30 fe52-fe53 fe67 fe6c-fe6f fe75 fefd-fefe ff00 ffbf-ffc1 ffc8-ffc9 ffd0-ffd1
   ffd8-ffd9 ffdd-ffdf ffe7 ffef-ffff 1000c 10027 1003b 1003e 1004e-1004f 1005e-1007f
   100fb-100ff 10103-10106 10134-10136 1018f 1019d-1019f 101a1-101cf 101fe-1027f 1029d-1029f
   102d1-102df 102fc-102ff 10324-1032c 1034b-1034f 1037b-1037f 1039e 103c4-103c7 103d6-103ff
   1049e-1049f 104aa-104af 104d4-104d7 104fc-104ff 10528-1052f 10564-1056e 1057b 1058b 10593
   10596 105a2 105b2 105ba 105bd-105bf 105f4-105ff 10737-1073f 10756-1075f 10768-1077f 10786
   107b1 107bb-107ff 10806-10807 10809 10836 10839-1083b 1083d-1083e 10856 1089f-108a6
   108b0-108df 108f3 108f6-108fa 1091c-1091e 1093a-1093e 1095a-1097f 109b8-109bb 109d0-109d1
   10a04 10a07-10a0b 10a14 10a18 10a36-10a37 10a3b-10a3e 10a49-10a4f 10a59-10a5f 10aa0-10abf
   10ae7-10aea 10af7-10aff 10b36-10b38 10b56-10b57 10b73-10b77 10b92-10b98 10b9d-10ba8
   10bb0-10bff 10c49-10c7f 10cb3-10cbf 10cf3-10cf9 10d28-10d2f 10d3a-10d3f 10d66-10d68
   10d86-10d8d 10d90-10e5f 10e7f 10eaa 10eae-10eaf 10eb2-10ec1 10ec8-10ecf 10ed9-10ef9
   10f28-10f2f 10f5a-10f6f 10f8a-10faf 10fcc-10fdf 10ff7-10fff 1104e-11051 11076-1107e 110bd
   110c3-110cf 110e9-110ef 110fa-110ff 11135 11148-1114f 11177-1117f 111e0 111f5-111ff 11212
   11242-1127f 11287 11289 1128e 1129e 112aa-112af 112eb-112ef 112fa-112ff 11304 1130d-1130e
   11311-11312 11329 11331 11334 1133a 11345-11346 11349-1134a 1134e-1134f 11351-11356
   11358-1135c 11364-11365 1136d-1136f 11375-1137f 1138a 1138c-1138d 1138f 113b6 113c1
   113c3-113c4 113c6 113cb 113d6 113d9-113e0 113e3-113ff 1145c 11462-1147f 114c8-114cf
   114da-1157f 115b6-115b7 115de-115ff 11645-1164f 1165a-1165f 1166d-1167f 116ba-116bf
   116ca-116cf 116e4-116ff 1171b-1171c 1172c-1172f 11747-117ff 1183c-1189f 118f3-118fe
   11907-11908 1190a-1190b 11914 11917 11936 11939-1193a 11947-1194f 1195a-1199f 119a8-119a9
   119d8-119d9 119e5-119ff 11a48-11a4f 11aa3-11aaf 11af9-11aff 11b0a-11b5f 11b68-11bbf
   11be2-11bef 11bfa-11bff 11c09 11c37 11c46-11c4f 11c6d-11c6f 11c90-11c91 11ca8 11cb7-11cff
   11d07 11d0a 11d37-11d39 11d3b 11d3e 11d48-11d4f 11d5a-11d5f 11d66 11d69 11d8f 11d92
   11d99-11d9f 11daa-11daf 11ddc-11ddf 11dea-11edf 11ef9-11eff 11f11 11f3b-11f3d 11f5b-11faf
   11fb1-11fbf 11ff2-11ffe 1239a-123ff 1246f 12475-1247f 12544-12f8f 12ff3-12fff 13430-1343f
   13456-1345f 143fb-143ff 14647-160ff 1613a-167ff 16a39-16a3f 16a5f 16a6a-16a6d 16abf
   16aca-16acf 16aee-16aef 16af6-16aff 16b46-16b4f 16b5a 16b62 16b78-16b7c 16b90-16d3f
   16d7a-16e3f 16e9b-16e9f 16eb9-16eba 16ed4-16eff 16f4b-16f4e 16f88-16f8e 16fa0-16fdf
   16fe5-16fef 16ff7-16fff 18cd6-18cfe 18d1f-18d7f 18df3-1afef 1aff4 1affc 1afff 1b123-1b131
   1b133-1b14f 1b153-1b154 1b156-1b163 1b168-1b16f 1b2fc-1bbff 1bc6b-1bc6f 1bc7d-1bc7f
   1bc89-1bc8f 1bc9a-1bc9b 1bca4-1cbff 1ccfd-1ccff 1ceb4-1ceb9 1ced1-1cedf 1cef1-1ceff
   1cf2e-1cf2f 1cf47-1cf4f 1cfc4-1cfff 1d0f6-1d0ff 1d127-1d128 1d1eb-1d1ff 1d246-1d2bf
   1d2d4-1d2df 1d2f4-1d2ff 1d357-1d35f 1d379-1d3ff 1d455 1d49d 1d4a0-1d4a1 1d4a3-1d4a4
   1d4a7-1d4a8 1d4ad 1d4ba 1d4bc 1d4c4 1d506 1d50b-1d50c 1d515 1d51d 1d53a 1d53f 1d545
   1d547-1d549 1d551 1d6a6-1d6a7 1d7cc-1d7cd 1da8c-1da9a 1daa0 1dab0-1deff 1df1f-1df24
   1df2b-1dfff 1e007 1e019-1e01a 1e022 1e025 1e02b-1e02f 1e06e-1e08e 1e090-1e0ff 1e12d-1e12f
   1e13e-1e13f 1e14a-1e14d 1e150-1e28f 1e2af-1e2bf 1e2fa-1e2fe 1e300-1e4cf 1e4fa-1e5cf
   1e5fb-1e5fe 1e600-1e6bf 1e6df 1e6f6-1e6fd 1e700-1e7df 1e7e7 1e7ec 1e7ef 1e7ff 1e8c5-1e8c6
   1e8d7-1e8ff 1e94c-1e94f 1e95a-1e95d 1e960-1ec70 1ecb5-1ed00 1ed3e-1edff 1ee04 1ee20 1ee23
   1ee25-1ee26 1ee28 1ee33 1ee38 1ee3a 1ee3c-1ee41 1ee43-1ee46 1ee48 1ee4a 1ee4c 1ee50 1ee53
   1ee55-1ee56 1ee58 1ee5a 1ee5c 1ee5e 1ee60 1ee63 1ee65-1ee66 1ee6b 1ee73 1ee78 1ee7d 1ee7f
   1ee8a 1ee9c-1eea0 1eea4 1eeaa 1eebc-1eeef 1eef2-1efff 1f02c-1f02f 1f094-1f09f 1f0af-1f0b0
   1f0c0 1f0d0 1f0f6-1f100 1f1ae-1f1e5 1f203-1f20f 1f23c-1f23f 1f249-1f24f 1f252-1f25f
   1f266-1f2ff 1f6d9-1f6db 1f6ed-1f6ef 1f6fd-1f6ff 1f7da-1f7df 1f7ec-1f7ef 1f7f1-1f7ff
   1f80c-1f80f 1f848-1f84f 1f85a-1f85f 1f888-1f88f 1f8ae-1f8af 1f8bc-1f8bf 1f8c2-1f8cf
   1f8d9-1f8ff 1fa58-1fa5f 1fa6e-1fa6f 1fa7d-1fa7f 1fa8b-1fa8d 1fac7 1fac9-1facc 1fadd-1fade
   1faeb-1faee 1faf9-1faff 1fb93 1fbfb-1ffff 2a6e0-2a6ff 2b81e-2b81f 2ceae-2ceaf 2ebe1-2ebef
   2ee5e-2f7ff 2fa1e-2ffff 3134b-3134f 3347a-e00ff e01f0-10ffff"

/-- Characters that are dropped from a domain name. -/
def ignored : CodeSet := .ofTable
  "ad 34f 115f-1160 17b4-17b5 180b-180f 200b 2060-2064 206a-206f 3164 fe00-fe0f feff ffa0
   1bca0-1bca3 1d173-1d17a e0100-e01ef"

/-- Characters that are replaced by others, and so stand in no encoded label. -/
def mapped : CodeSet := .ofTable
  "a0 a8 aa af b2-b5 b8-ba bc-be c0-d6 d8-de 100 102 104 106 108 10a 10c 10e 110 112 114 116
   118 11a 11c 11e 120 122 124 126 128 12a 12c 12e 130 132-134 136 139 13b 13d 13f-141 143 145
   147 149-14a 14c 14e 150 152 154 156 158 15a 15c 15e 160 162 164 166 168 16a 16c 16e 170 172
   174 176 178-179 17b 17d 17f 181-182 184 186-187 189-18b 18e-191 193-194 196-198 19c-19d
   19f-1a0 1a2 1a4 1a6-1a7 1a9 1ac 1ae-1af 1b1-1b3 1b5 1b7-1b8 1bc 1c4-1cd 1cf 1d1 1d3 1d5 1d7
   1d9 1db 1de 1e0 1e2 1e4 1e6 1e8 1ea 1ec 1ee 1f1-1f4 1f6-1f8 1fa 1fc 1fe 200 202 204 206 208
   20a 20c 20e 210 212 214 216 218 21a 21c 21e 220 222 224 226 228 22a 22c 22e 230 232 23a-23b
   23d-23e 241 243-246 248 24a 24c 24e 2b0-2b8 2d8-2dd 2e0-2e4 340-341 343-345 370 372 374 376
   37a 37e-37f 384-38a 38c 38e-38f 391-3a1 3a3-3ab 3cf-3d6 3d8 3da 3dc 3de 3e0 3e2 3e4 3e6 3e8
   3ea 3ec 3ee 3f0-3f2 3f4-3f5 3f7 3f9-3fa 3fd-42f 460 462 464 466 468 46a 46c 46e 470 472 474
   476 478 47a 47c 47e 480 48a 48c 48e 490 492 494 496 498 49a 49c 49e 4a0 4a2 4a4 4a6 4a8 4aa
   4ac 4ae 4b0 4b2 4b4 4b6 4b8 4ba 4bc 4be 4c0-4c1 4c3 4c5 4c7 4c9 4cb 4cd 4d0 4d2 4d4 4d6 4d8
   4da 4dc 4de 4e0 4e2 4e4 4e6 4e8 4ea 4ec 4ee 4f0 4f2 4f4 4f6 4f8 4fa 4fc 4fe 500 502 504 506
   508 50a 50c 50e 510 512 514 516 518 51a 51c 51e 520 522 524 526 528 52a 52c 52e 531-556 587
   675-678 958-95f 9dc-9dd 9df a33 a36 a59-a5b a5e b5c-b5d e33 eb3 edc-edd f0c f43 f4d f52 f57
   f5c f69 f73 f75-f79 f81 f93 f9d fa2 fa7 fac fb9 10a0-10c5 10c7 10cd 10fc 13f8-13fd
   1c80-1c89 1c90-1cba 1cbd-1cbf 1d2c-1d2e 1d30-1d3a 1d3c-1d4d 1d4f-1d6a 1d78 1d9b-1dbf 1e00
   1e02 1e04 1e06 1e08 1e0a 1e0c 1e0e 1e10 1e12 1e14 1e16 1e18 1e1a 1e1c 1e1e 1e20 1e22 1e24
   1e26 1e28 1e2a 1e2c 1e2e 1e30 1e32 1e34 1e36 1e38 1e3a 1e3c 1e3e 1e40 1e42 1e44 1e46 1e48
   1e4a 1e4c 1e4e 1e50 1e52 1e54 1e56 1e58 1e5a 1e5c 1e5e 1e60 1e62 1e64 1e66 1e68 1e6a 1e6c
   1e6e 1e70 1e72 1e74 1e76 1e78 1e7a 1e7c 1e7e 1e80 1e82 1e84 1e86 1e88 1e8a 1e8c 1e8e 1e90
   1e92 1e94 1e9a-1e9b 1e9e 1ea0 1ea2 1ea4 1ea6 1ea8 1eaa 1eac 1eae 1eb0 1eb2 1eb4 1eb6 1eb8
   1eba 1ebc 1ebe 1ec0 1ec2 1ec4 1ec6 1ec8 1eca 1ecc 1ece 1ed0 1ed2 1ed4 1ed6 1ed8 1eda 1edc
   1ede 1ee0 1ee2 1ee4 1ee6 1ee8 1eea 1eec 1eee 1ef0 1ef2 1ef4 1ef6 1ef8 1efa 1efc 1efe
   1f08-1f0f 1f18-1f1d 1f28-1f2f 1f38-1f3f 1f48-1f4d 1f59 1f5b 1f5d 1f5f 1f68-1f6f 1f71 1f73
   1f75 1f77 1f79 1f7b 1f7d 1f80-1faf 1fb2-1fb4 1fb7-1fc4 1fc7-1fcf 1fd3 1fd8-1fdb 1fdd-1fdf
   1fe3 1fe8-1fef 1ff2-1ff4 1ff7-1ffe 2000-200a 2011 2017 202f 2033-2034 2036-2037 203c 203e
   2047-2049 2057 205f 2070-2071 2074-208e 2090-209c 20a8 2100-2103 2105-2107 2109-2113
   2115-2116 2119-211d 2120-2122 2124 2126 2128 212a-212d 212f-2139 213b-2140 2145-2149
   2150-217f 2183 2189 222c-222d 222f-2230 2329-232a 2460-2487 249c-24ea 2a0c 2a74-2a76 2adc
   2c00-2c2f 2c60 2c62-2c64 2c67 2c69 2c6b 2c6d-2c70 2c72 2c75 2c7c-2c80 2c82 2c84 2c86 2c88
   2c8a 2c8c 2c8e 2c90 2c92 2c94 2c96 2c98 2c9a 2c9c 2c9e 2ca0 2ca2 2ca4 2ca6 2ca8 2caa 2cac
   2cae 2cb0 2cb2 2cb4 2cb6 2cb8 2cba 2cbc 2cbe 2cc0 2cc2 2cc4 2cc6 2cc8 2cca 2ccc 2cce 2cd0
   2cd2 2cd4 2cd6 2cd8 2cda 2cdc 2cde 2ce0 2ce2 2ceb 2ced 2cf2 2d6f 2e9f 2ef3 2f00-2fd5 3000
   3002 3036 3038-303a 309b-309c 309f 30ff 3131-3163 3165-318e 3192-319f 3200-321e 3220-3247
   3250-327e 3280-33c1 33c3-33c6 33c8-33d7 33d9-33ff a640 a642 a644 a646 a648 a64a a64c a64e
   a650 a652 a654 a656 a658 a65a a65c a65e a660 a662 a664 a666 a668 a66a a66c a680 a682 a684
   a686 a688 a68a a68c a68e a690 a692 a694 a696 a698 a69a a69c-a69d a722 a724 a726 a728 a72a
   a72c a72e a732 a734 a736 a738 a73a a73c a73e a740 a742 a744 a746 a748 a74a a74c a74e a750
   a752 a754 a756 a758 a75a a75c a75e a760 a762 a764 a766 a768 a76a a76c a76e a770 a779 a77b
   a77d-a77e a780 a782 a784 a786 a78b a78d a790 a792 a796 a798 a79a a79c a79e a7a0 a7a2 a7a4
   a7a6 a7a8 a7aa-a7ae a7b0-a7b4 a7b6 a7b8 a7ba a7bc a7be a7c0 a7c2 a7c4-a7c7 a7c9 a7cb-a7cc
   a7ce a7d0 a7d2 a7d4 a7d6 a7d8 a7da a7dc a7f1-a7f5 a7f8-a7f9 ab5c-ab5f ab69 ab70-abbf
   f900-fa0d fa10 fa12 fa15-fa1e fa20 fa22 fa25-fa26 fa2a-fa6d fa70-fad9 fb00-fb06 fb13-fb17
   fb1d fb1f-fb36 fb38-fb3c fb3e fb40-fb41 fb43-fb44 fb46-fbb1 fbd3-fd3d fd50-fd8f fd92-fdc7
   fdf0-fdfc fe10-fe11 fe13-fe18 fe31-fe44 fe47-fe51 fe54-fe66 fe68-fe6b fe70-fe72 fe74
   fe76-fefc ff01-ff9f ffa1-ffbe ffc2-ffc7 ffca-ffcf ffd2-ffd7 ffda-ffdc ffe0-ffe6 ffe8-ffee
   10400-10427 104b0-104d3 10570-1057a 1057c-1058a 1058c-10592 10594-10595 10781-10785
   10787-107b0 107b2-107ba 10c80-10cb2 10d50-10d65 118a0-118bf 16e40-16e5f 16ea0-16eb8
   1ccd6-1ccf9 1d15e-1d164 1d1bb-1d1c0 1d400-1d454 1d456-1d49c 1d49e-1d49f 1d4a2 1d4a5-1d4a6
   1d4a9-1d4ac 1d4ae-1d4b9 1d4bb 1d4bd-1d4c3 1d4c5-1d505 1d507-1d50a 1d50d-1d514 1d516-1d51c
   1d51e-1d539 1d53b-1d53e 1d540-1d544 1d546 1d54a-1d550 1d552-1d6a5 1d6a8-1d7cb 1d7ce-1d7ff
   1e030-1e06d 1e900-1e921 1ee00-1ee03 1ee05-1ee1f 1ee21-1ee22 1ee24 1ee27 1ee29-1ee32
   1ee34-1ee37 1ee39 1ee3b 1ee42 1ee47 1ee49 1ee4b 1ee4d-1ee4f 1ee51-1ee52 1ee54 1ee57 1ee59
   1ee5b 1ee5d 1ee5f 1ee61-1ee62 1ee64 1ee67-1ee6a 1ee6c-1ee72 1ee74-1ee77 1ee79-1ee7c 1ee7e
   1ee80-1ee89 1ee8b-1ee9b 1eea1-1eea3 1eea5-1eea9 1eeab-1eebb 1f101-1f10a 1f110-1f12e
   1f130-1f14f 1f16a-1f16c 1f190 1f200-1f202 1f210-1f23b 1f240-1f248 1f250-1f251 1fbf0-1fbf9
   2f800-2fa1d"

/-- Characters with which no label may begin: combining marks, and the characters
whose replacement begins with one. -/
def marks : CodeSet := .ofTable
  "300-36f 483-489 591-5bd 5bf 5c1-5c2 5c4-5c5 5c7 610-61a 64b-65f 670 6d6-6dc 6df-6e4 6e7-6e8
   6ea-6ed 711 730-74a 7a6-7b0 7eb-7f3 7fd 816-819 81b-823 825-827 829-82d 859-85b 898-89f
   8ca-8e1 8e3-903 93a-93c 93e-94f 951-957 962-963 981-983 9bc 9be-9c4 9c7-9c8 9cb-9cd 9d7
   9e2-9e3 9fe a01-a03 a3c a3e-a42 a47-a48 a4b-a4d a51 a70-a71 a75 a81-a83 abc abe-ac5 ac7-ac9
   acb-acd ae2-ae3 afa-aff b01-b03 b3c b3e-b44 b47-b48 b4b-b4d b55-b57 b62-b63 b82 bbe-bc2
   bc6-bc8 bca-bcd bd7 c00-c04 c3c c3e-c44 c46-c48 c4a-c4d c55-c56 c62-c63 c81-c83 cbc cbe-cc4
   cc6-cc8 cca-ccd cd5-cd6 ce2-ce3 cf3 d00-d03 d3b-d3c d3e-d44 d46-d48 d4a-d4d d57 d62-d63
   d81-d83 dca dcf-dd4 dd6 dd8-ddf df2-df3 e31 e33-e3a e47-e4e eb1 eb3-ebc ec8-ece f18-f19 f35
   f37 f39 f3e-f3f f71-f84 f86-f87 f8d-f97 f99-fbc fc6 102b-103e 1056-1059 105e-1060 1062-1064
   1067-106d 1071-1074 1082-108d 108f 109a-109d 135d-135f 1712-1715 1732-1734 1752-1753
   1772-1773 17b4-17d3 17dd 180b-180d 180f 1885-1886 18a9 1920-192b 1930-193b 1a17-1a1b
   1a55-1a5e 1a60-1a7c 1a7f 1ab0-1ace 1b00-1b04 1b34-1b44 1b6b-1b73 1b80-1b82 1ba1-1bad
   1be6-1bf3 1c24-1c37 1cd0-1cd2 1cd4-1ce8 1ced 1cf4 1cf7-1cf9 1dc0-1dff 20d0-20f0 2cef-2cf1
   2d7f 2de0-2dff 302a-302f 3099-309a a66f-a672 a674-a67d a69e-a69f a6f0-a6f1 a802 a806 a80b
   a823-a827 a82c a880-a881 a8b4-a8c5 a8e0-a8f1 a8ff a926-a92d a947-a953 a980-a983 a9b3-a9c0
   a9e5 aa29-aa36 aa43 aa4c-aa4d aa7b-aa7d aab0 aab2-aab4 aab7-aab8 aabe-aabf aac1 aaeb-aaef
   aaf5-aaf6 abe3-abea abec-abed fb1e fe00-fe0f fe20-fe2f ff9e-ff9f 101fd 102e0 10376-1037a
   10a01-10a03 10a05-10a06 10a0c-10a0f 10a38-10a3a 10a3f 10ae5-10ae6 10d24-10d27 10eab-10eac
   10efd-10eff 10f46-10f50 10f82-10f85 11000-11002 11038-11046 11070 11073-11074 1107f-11082
   110b0-110ba 110c2 11100-11102 11127-11134 11145-11146 11173 11180-11182 111b3-111c0
   111c9-111cc 111ce-111cf 1122c-11237 1123e 11241 112df-112ea 11300-11303 1133b-1133c
   1133e-11344 11347-11348 1134b-1134d 11357 11362-11363 11366-1136c 11370-11374 11435-11446
   1145e 114b0-114c3 115af-115b5 115b8-115c0 115dc-115dd 11630-11640 116ab-116b7 1171d-1172b
   1182c-1183a 11930-11935 11937-11938 1193b-1193e 11940 11942-11943 119d1-119d7 119da-119e0
   119e4 11a01-11a0a 11a33-11a39 11a3b-11a3e 11a47 11a51-11a5b 11a8a-11a99 11c2f-11c36
   11c38-11c3f 11c92-11ca7 11ca9-11cb6 11d31-11d36 11d3a 11d3c-11d3d 11d3f-11d45 11d47
   11d8a-11d8e 11d90-11d91 11d93-11d97 11ef3-11ef6 11f00-11f01 11f03 11f34-11f3a 11f3e-11f42
   13440 13447-13455 16af0-16af4 16b30-16b36 16f4f 16f51-16f87 16f8f-16f92 16fe4 16ff0-16ff1
   1bc9d-1bc9e 1cf00-1cf2d 1cf30-1cf46 1d165-1d169 1d16d-1d172 1d17b-1d182 1d185-1d18b
   1d1aa-1d1ad 1d242-1d244 1da00-1da36 1da3b-1da6c 1da75 1da84 1da9b-1da9f 1daa1-1daaf
   1e000-1e006 1e008-1e018 1e01b-1e021 1e023-1e024 1e026-1e02a 1e08f 1e130-1e136 1e2ae
   1e2ec-1e2ef 1e4ec-1e4ef 1e8d0-1e8d6 1e944-1e94a e0100-e01ef"

/-- Letters written from right to left, other than Arabic ones. -/
def rightToLeft : CodeSet := .ofTable
  "5be 5c0 5c3 5c6 5d0-5ea 5ef-5f4 7c0-7ea 7f4-7f5 7fa 7fe-815 81a 824 828 830-83e 840-858 85e
   2135-2138 fb1d fb1f-fb28 fb2a-fb36 fb38-fb3c fb3e fb40-fb41 fb43-fb44 fb46-fb4f 10800-10805
   10808 1080a-10835 10837-10838 1083c 1083f-10855 10857-1089e 108a7-108af 108e0-108f2
   108f4-108f5 108fb-1091b 10920-10939 1093f-10959 10980-109b7 109bc-109cf 109d2-10a00
   10a10-10a13 10a15-10a17 10a19-10a35 10a40-10a48 10a50-10a58 10a60-10a9f 10ac0-10ae4
   10aeb-10af6 10b00-10b35 10b40-10b55 10b58-10b72 10b78-10b91 10b99-10b9c 10ba9-10baf
   10c00-10c48 10c80-10cb2 10cc0-10cf2 10cfa-10cff 10d40-10d65 10d69-10d85 10d8e-10d8f
   10e80-10ea9 10ead 10eb0-10eb1 10f00-10f27 10f70-10f81 10f86-10f89 10fb0-10fcb 10fe0-10ff6
   1e800-1e8c4 1e8c7-1e8cf 1e900-1e943 1e94b 1e950-1e959 1e95e-1e95f"

/-- Letters of the Arabic kind. -/
def arabicLetters : CodeSet := .ofTable
  "608 60b 60d 61b 61d-64a 66d-66f 671-6d5 6e5-6e6 6ee-6ef 6fa-70d 710 712-72f 74d-7a5 7b1
   860-86a 870-88f 897 8a0-8c9 fb50-fd3d fd50-fdce fdf0-fdfc fe70-fe74 fe76-fefc 10d00-10d23
   10ec2-10ec7 10ed0-10ed8 10efa-10efc 10f30-10f45 10f51-10f59 1ec71-1ecb4 1ed01-1ed3d
   1ee00-1ee03 1ee05-1ee1f 1ee21-1ee22 1ee24 1ee27 1ee29-1ee32 1ee34-1ee37 1ee39 1ee3b 1ee42
   1ee47 1ee49 1ee4b 1ee4d-1ee4f 1ee51-1ee52 1ee54 1ee57 1ee59 1ee5b 1ee5d 1ee5f 1ee61-1ee62
   1ee64 1ee67-1ee6a 1ee6c-1ee72 1ee74-1ee77 1ee79-1ee7c 1ee7e 1ee80-1ee89 1ee8b-1ee9b
   1eea1-1eea3 1eea5-1eea9 1eeab-1eebb"

/-- Digits of the Arabic kind. -/
def arabicNumbers : CodeSet := .ofTable
  "660-669 66b-66c 10d30-10d39 10e60-10e7e"

/-- Digits above the ASCII range that are written like the ASCII ones. -/
def europeanNumbers : CodeSet := .ofTable
  "b2-b3 b9 6f0-6f9 2070 2074-2079 2080-2089 ff10-ff19 102e1-102fb 1d7ce-1d7ff 1f101-1f10a
   1fbf0-1fbf9"

/-- Marks that take the direction of what they stand on. -/
def nonspacingMarks : CodeSet := .ofTable
  "300-344 346-34e 350-36f 483-489 591-5bd 5bf 5c1-5c2 5c4-5c5 5c7 610-61a 64b-65f 670 6d6-6dc
   6df-6e4 6e7-6e8 6ea-6ed 711 730-74a 7a6-7b0 7eb-7f3 7fd 816-819 81b-823 825-827 829-82d
   859-85b 898-89f 8ca-8e1 8e3-902 93a 93c 941-948 94d 951-957 962-963 981 9bc 9c1-9c4 9cd
   9e2-9e3 9fe a01-a02 a3c a41-a42 a47-a48 a4b-a4d a51 a70-a71 a75 a81-a82 abc ac1-ac5 ac7-ac8
   acd ae2-ae3 afa-aff b01 b3c b3f b41-b44 b4d b55-b56 b62-b63 b82 bc0 bcd c00 c04 c3c c3e-c40
   c46-c48 c4a-c4d c55-c56 c62-c63 c81 cbc ccc-ccd ce2-ce3 d00-d01 d3b-d3c d41-d44 d4d d62-d63
   d81 dca dd2-dd4 dd6 e31 e33-e3a e47-e4e eb1 eb3-ebc ec8-ece f18-f19 f35 f37 f39 f71-f7e
   f80-f84 f86-f87 f8d-f97 f99-fbc fc6 102d-1030 1032-1037 1039-103a 103d-103e 1058-1059
   105e-1060 1071-1074 1082 1085-1086 108d 109d 135d-135f 1712-1714 1732-1733 1752-1753
   1772-1773 17b7-17bd 17c6 17c9-17d3 17dd 1885-1886 18a9 1920-1922 1927-1928 1932 1939-193b
   1a17-1a18 1a1b 1a56 1a58-1a5e 1a60 1a62 1a65-1a6c 1a73-1a7c 1a7f 1ab0-1ace 1b00-1b03 1b34
   1b36-1b3a 1b3c 1b42 1b6b-1b73 1b80-1b81 1ba2-1ba5 1ba8-1ba9 1bab-1bad 1be6 1be8-1be9 1bed
   1bef-1bf1 1c2c-1c33 1c36-1c37 1cd0-1cd2 1cd4-1ce0 1ce2-1ce8 1ced 1cf4 1cf8-1cf9 1dc0-1dff
   20d0-20f0 2cef-2cf1 2d7f 2de0-2dff 302a-302d 3099-309a a66f-a672 a674-a67d a69e-a69f
   a6f0-a6f1 a802 a806 a80b a825-a826 a82c a8c4-a8c5 a8e0-a8f1 a8ff a926-a92d a947-a951
   a980-a982 a9b3 a9b6-a9b9 a9bc-a9bd a9e5 aa29-aa2e aa31-aa32 aa35-aa36 aa43 aa4c aa7c aab0
   aab2-aab4 aab7-aab8 aabe-aabf aac1 aaec-aaed aaf6 abe5 abe8 abed fb1e fe20-fe2f ff9e-ff9f
   101fd 102e0 10376-1037a 10a01-10a03 10a05-10a06 10a0c-10a0f 10a38-10a3a 10a3f 10ae5-10ae6
   10d24-10d27 10eab-10eac 10efd-10eff 10f46-10f50 10f82-10f85 11001 11038-11046 11070
   11073-11074 1107f-11081 110b3-110b6 110b9-110ba 110c2 11100-11102 11127-1112b 1112d-11134
   11173 11180-11181 111b6-111be 111c9-111cc 111cf 1122f-11231 11234 11236-11237 1123e 11241
   112df 112e3-112ea 11300-11301 1133b-1133c 11340 11366-1136c 11370-11374 11438-1143f
   11442-11444 11446 1145e 114b3-114b8 114ba 114bf-114c0 114c2-114c3 115b2-115b5 115bc-115bd
   115bf-115c0 115dc-115dd 11633-1163a 1163d 1163f-11640 116ab 116ad 116b0-116b5 116b7
   1171d-1171f 11722-11725 11727-1172b 1182f-11837 11839-1183a 1193b-1193c 1193e 11943
   119d4-119d7 119da-119db 119e0 11a01-11a06 11a09-11a0a 11a33-11a38 11a3b-11a3e 11a47
   11a51-11a56 11a59-11a5b 11a8a-11a96 11a98-11a99 11c30-11c36 11c38-11c3d 11c92-11ca7
   11caa-11cb0 11cb2-11cb3 11cb5-11cb6 11d31-11d36 11d3a 11d3c-11d3d 11d3f-11d45 11d47
   11d90-11d91 11d95 11d97 11ef3-11ef4 11f00-11f01 11f36-11f3a 11f40 11f42 13440 13447-13455
   16af0-16af4 16b30-16b36 16f4f 16f8f-16f92 16fe4 1bc9d-1bc9e 1cf00-1cf2d 1cf30-1cf46
   1d167-1d169 1d17b-1d182 1d185-1d18b 1d1aa-1d1ad 1d242-1d244 1da00-1da36 1da3b-1da6c 1da75
   1da84 1da9b-1da9f 1daa1-1daaf 1e000-1e006 1e008-1e018 1e01b-1e021 1e023-1e024 1e026-1e02a
   1e08f 1e130-1e136 1e2ae 1e2ec-1e2ef 1e4ec-1e4ef 1e8d0-1e8d6 1e944-1e94a"

/-- Separators, terminators and other characters without a direction. -/
def neutrals : CodeSet := .ofTable
  "a0-a9 ab-ac ae-b1 b4 b6-b8 bb-bf d7 f7 2b9-2ba 2c2-2cf 2d2-2df 2e5-2ed 2ef-2ff 374-375 37e
   384-385 387 3f6 58a 58d-58f 606-607 609-60a 60c 60e-60f 66a 6de 6e9 7f6-7f9 9f2-9f3 9fb af1
   bf3-bfa c78-c7e e3f f3a-f3d 1390-1399 1400 169b-169c 17db 17f0-17f9 1800-180a 1940
   1944-1945 19de-19ff 1fbd 1fbf-1fc1 1fcd-1fcf 1fdd-1fdf 1fed-1fef 1ffd-1ffe 200c-200d
   2010-2023 2027 202f-205e 207a-207e 208a-208e 20a0-20c1 2100-2101 2103-2106 2108-2109 2114
   2116-2118 211e-2123 2125 2127 2129 212e 213a-213b 2140-2144 214a-214d 2150-215f 2189-218b
   2190-2335 237b-2394 2396-2426 2440-244a 2460-2487 24ea-26ab 26ad-27ff 2900-2b73 2b76-2b95
   2b97-2bff 2ce5-2cea 2cf9-2cff 2e00-2e5d 2e80-2e99 2e9b-2e9e 2ea0-2ef2 3001-3004 3008-3020
   3030 3036-3037 303d-303f 309b-309c 30a0 30fb 31c0-31e3 321d-321e 3250-325f 32b1-32bf
   32cc-32cf 3377-337a 33de-33df 33ff 4dc0-4dff a490-a4c6 a60d-a60f a673 a67e-a67f a700-a721
   a788 a828-a82b a838-a839 a874-a877 ab6a-ab6b fb29 fd3e-fd4f fdcf fdfd-fdff fe10-fe11
   fe13-fe18 fe31-fe51 fe54-fe66 fe68-fe6b ff01-ff0f ff1a-ff20 ff3b-ff40 ff5b-ff65 ffe0-ffe6
   ffe8-ffee 10101 10140-1018c 10190-1019c 101a0 1091f 10b39-10b3f 11052-11065 11660-1166c
   11fd5-11ff1 16fe2 1d1e9-1d1ea 1d200-1d241 1d245 1d300-1d356 1d6c1 1d6db 1d6fb 1d715 1d735
   1d74f 1d76f 1d789 1d7a9 1d7c3 1e2ff 1eef0-1eef1 1f000-1f02b 1f030-1f093 1f0a0-1f0ae
   1f0b1-1f0bf 1f0c1-1f0cf 1f0d1-1f0f5 1f10b-1f10f 1f12f 1f16a-1f16f 1f1ad 1f240-1f248
   1f260-1f265 1f300-1f6d7 1f6dc-1f6ec 1f6f0-1f6fc 1f700-1f776 1f77b-1f7d9 1f7e0-1f7eb 1f7f0
   1f800-1f80b 1f810-1f847 1f850-1f859 1f860-1f887 1f890-1f8ad 1f8b0-1f8b1 1f900-1fa53
   1fa60-1fa6d 1fa70-1fa7c 1fa80-1fa88 1fa90-1fabd 1fabf-1fac5 1face-1fadb 1fae0-1fae8
   1faf0-1faf8 1fb00-1fb92 1fb94-1fbca"

/-- Signs that join the letter before them to the next one. -/
def viramas : CodeSet := .ofTable
  "94d 9cd a4d acd b4d bcd c4d ccd d3b-d3c d4d dca e3a eba f84 1039-103a 1714-1715 1734 17d2
   1a60 1b44 1baa-1bab 1bf2-1bf3 2d7f a806 a82c a8c4 a953 a9c0 aaf6 abed 10a3f 11046 11070
   1107f 110b9 11133-11134 111c0 11235 112ea 1134d 11442 114c2 115bf 1163f 116b6 1172b 11839
   1193d-1193e 119e0 11a34 11a47 11a99 11c3f 11d44-11d45 11d97 11f41-11f42"

/-- Letters that join only to the letter after them. -/
def leftJoining : CodeSet := .ofTable
  "a872 10acd 10ad7 10d00 10fcb"

/-- Letters that join only to the letter before them. -/
def rightJoining : CodeSet := .ofTable
  "622-625 627 629 62f-632 648 671-673 675-677 688-699 6c0 6c3-6cb 6cd 6cf 6d2-6d3 6d5 6ee-6ef
   710 715-719 71e 728 72a 72c 72f 74d 759-75b 76b-76c 771 773-774 778-779 840 846-847 849 854
   856-858 867 869-86a 870-882 88e 8aa-8ac 8ae 8b1-8b2 8b9 10ac5 10ac7 10ac9-10aca 10ace-10ad2
   10add 10ae1 10ae4 10aef 10b81 10b83-10b85 10b89 10b8c 10b8e-10b8f 10b91 10ba9-10bac 10d22
   10f33 10f54 10f74-10f75 10fb4-10fb6 10fb9-10fba 10fbd 10fc2-10fc3 10fc9"

/-- Letters that join on both sides. -/
def dualJoining : CodeSet := .ofTable
  "620 626 628 62a-62e 633-63f 641-647 649-64a 66e-66f 678-687 69a-6bf 6c1-6c2 6cc 6ce 6d0-6d1
   6fa-6fc 6ff 712-714 71a-71d 71f-727 729 72b 72d-72e 74e-758 75c-76a 76d-770 772 775-777
   77a-77f 7ca-7ea 841-845 848 84a-853 855 860 862-865 868 886 889-88d 8a0-8a9 8af-8b0 8b3-8b8
   8ba-8c8 1807 1820-1878 1887-18a8 18aa a840-a871 10ac0-10ac4 10ad3-10ad6 10ad8-10adc
   10ade-10ae0 10aeb-10aee 10b80 10b82 10b86-10b88 10b8a-10b8b 10b8d 10b90 10bad-10bae
   10d01-10d21 10d23 10f30-10f32 10f34-10f44 10f51-10f53 10f70-10f73 10f76-10f81 10fb0
   10fb2-10fb3 10fb8 10fbb-10fbc 10fbe-10fbf 10fc1 10fc4 10fca 1e900-1e943"

/-- The replacements that hold an ASCII character, as a run of characters and
the text for the first of them; a run of one character replaces it by the whole
text, a longer one by the character as far along. Other replacements keep what
makes a name acceptable, so they need no entry. -/
def asciiReplacementTable : String :=
  "a0-a0:20 a8-a8:20.308 aa-aa:61 af-af:20.304 b2-b3:32 b4-b4:20.301 b8-b8:20.327 b9-b9:31
   ba-ba:6f bc-bc:31.2044.34 bd-bd:31.2044.32 be-be:33.2044.34 130-130:69.307 132-132:69.6a
   133-133:69.6a 13f-13f:6c.b7 140-140:6c.b7 149-149:2bc.6e 17f-17f:73 1c4-1c4:64.17e
   1c5-1c5:64.17e 1c6-1c6:64.17e 1c7-1c7:6c.6a 1c8-1c8:6c.6a 1c9-1c9:6c.6a 1ca-1ca:6e.6a
   1cb-1cb:6e.6a 1cc-1cc:6e.6a 1f1-1f1:64.7a 1f2-1f2:64.7a 1f3-1f3:64.7a 2b0-2b0:68 2b2-2b2:6a
   2b3-2b3:72 2b7-2b7:77 2b8-2b8:79 2d8-2d8:20.306 2d9-2d9:20.307 2da-2da:20.30a
   2db-2db:20.328 2dc-2dc:20.303 2dd-2dd:20.30b 2e1-2e1:6c 2e2-2e2:73 2e3-2e3:78
   37a-37a:20.3b9 37e-37e:3b 384-384:20.301 385-385:20.308.301 1d2c-1d2c:61 1d2e-1d2e:62
   1d30-1d31:64 1d33-1d3a:67 1d3c-1d3c:6f 1d3e-1d3e:70 1d3f-1d3f:72 1d40-1d41:74 1d42-1d42:77
   1d43-1d43:61 1d47-1d47:62 1d48-1d49:64 1d4d-1d4d:67 1d4f-1d4f:6b 1d50-1d50:6d 1d52-1d52:6f
   1d56-1d56:70 1d57-1d58:74 1d5b-1d5b:76 1d62-1d62:69 1d63-1d63:72 1d64-1d65:75 1d9c-1d9c:63
   1da0-1da0:66 1dbb-1dbb:7a 1e9a-1e9a:61.2be 1fbd-1fbd:20.313 1fbf-1fbf:20.313
   1fc0-1fc0:20.342 1fc1-1fc1:20.308.342 1fcd-1fcd:20.313.300 1fce-1fce:20.313.301
   1fcf-1fcf:20.313.342 1fdd-1fdd:20.314.300 1fde-1fde:20.314.301 1fdf-1fdf:20.314.342
   1fed-1fed:20.308.300 1fee-1fee:20.308.301 1fef-1fef:60 1ffd-1ffd:20.301 1ffe-1ffe:20.314
   2000-2000:20 2001-2001:20 2002-2002:20 2003-2003:20 2004-2004:20 2005-2005:20 2006-2006:20
   2007-2007:20 2008-2008:20 2009-2009:20 200a-200a:20 2017-2017:20.333 202f-202f:20
   203c-203c:21.21 203e-203e:20.305 2047-2047:3f.3f 2048-2048:3f.21 2049-2049:21.3f
   205f-205f:20 2070-2070:30 2071-2071:69 2074-2079:34 207a-207a:2b 207c-207c:3d 207d-207e:28
   207f-207f:6e 2080-2089:30 208a-208a:2b 208c-208c:3d 208d-208e:28 2090-2090:61 2091-2091:65
   2092-2092:6f 2093-2093:78 2095-2095:68 2096-2099:6b 209a-209a:70 209b-209c:73
   20a8-20a8:72.73 2100-2100:61.2f.63 2101-2101:61.2f.73 2102-2102:63 2103-2103:b0.63
   2105-2105:63.2f.6f 2106-2106:63.2f.75 2109-2109:b0.66 210a-210b:67 210c-210c:68
   210d-210d:68 210e-210e:68 2110-2110:69 2111-2111:69 2112-2112:6c 2113-2113:6c 2115-2115:6e
   2116-2116:6e.6f 2119-211b:70 211c-211c:72 211d-211d:72 2120-2120:73.6d 2121-2121:74.65.6c
   2122-2122:74.6d 2124-2124:7a 2128-2128:7a 212a-212a:6b 212c-212d:62 212f-212f:65
   2130-2131:65 2133-2133:6d 2134-2134:6f 2139-2139:69 213b-213b:66.61.78 2145-2145:64
   2146-2147:64 2148-2149:69 2150-2150:31.2044.37 2151-2151:31.2044.39 2152-2152:31.2044.31.30
   2153-2153:31.2044.33 2154-2154:32.2044.33 2155-2155:31.2044.35 2156-2156:32.2044.35
   2157-2157:33.2044.35 2158-2158:34.2044.35 2159-2159:31.2044.36 215a-215a:35.2044.36
   215b-215b:31.2044.38 215c-215c:33.2044.38 215d-215d:35.2044.38 215e-215e:37.2044.38
   215f-215f:31.2044 2160-2160:69 2161-2161:69.69 2162-2162:69.69.69 2163-2163:69.76
   2164-2164:76 2165-2165:76.69 2166-2166:76.69.69 2167-2167:76.69.69.69 2168-2168:69.78
   2169-2169:78 216a-216a:78.69 216b-216b:78.69.69 216c-216c:6c 216d-216e:63 216f-216f:6d
   2170-2170:69 2171-2171:69.69 2172-2172:69.69.69 2173-2173:69.76 2174-2174:76
   2175-2175:76.69 2176-2176:76.69.69 2177-2177:76.69.69.69 2178-2178:69.78 2179-2179:78
   217a-217a:78.69 217b-217b:78.69.69 217c-217c:6c 217d-217e:63 217f-217f:6d
   2189-2189:30.2044.33 2460-2468:31 2469-2469:31.30 246a-246a:31.31 246b-246b:31.32
   246c-246c:31.33 246d-246d:31.34 246e-246e:31.35 246f-246f:31.36 2470-2470:31.37
   2471-2471:31.38 2472-2472:31.39 2473-2473:32.30 2474-2474:28.31.29 2475-2475:28.32.29
   2476-2476:28.33.29 2477-2477:28.34.29 2478-2478:28.35.29 2479-2479:28.36.29
   247a-247a:28.37.29 247b-247b:28.38.29 247c-247c:28.39.29 247d-247d:28.31.30.29
   247e-247e:28.31.31.29 247f-247f:28.31.32.29 2480-2480:28.31.33.29 2481-2481:28.31.34.29
   2482-2482:28.31.35.29 2483-2483:28.31.36.29 2484-2484:28.31.37.29 2485-2485:28.31.38.29
   2486-2486:28.31.39.29 2487-2487:28.32.30.29 249c-249c:28.61.29 249d-249d:28.62.29
   249e-249e:28.63.29 249f-249f:28.64.29 24a0-24a0:28.65.29 24a1-24a1:28.66.29
   24a2-24a2:28.67.29 24a3-24a3:28.68.29 24a4-24a4:28.69.29 24a5-24a5:28.6a.29
   24a6-24a6:28.6b.29 24a7-24a7:28.6c.29 24a8-24a8:28.6d.29 24a9-24a9:28.6e.29
   24aa-24aa:28.6f.29 24ab-24ab:28.70.29 24ac-24ac:28.71.29 24ad-24ad:28.72.29
   24ae-24ae:28.73.29 24af-24af:28.74.29 24b0-24b0:28.75.29 24b1-24b1:28.76.29
   24b2-24b2:28.77.29 24b3-24b3:28.78.29 24b4-24b4:28.79.29 24b5-24b5:28.7a.29 24b6-24cf:61
   24d0-24e9:61 24ea-24ea:30 2a74-2a74:3a.3a.3d 2a75-2a75:3d.3d 2a76-2a76:3d.3d.3d
   2c7c-2c7c:6a 2c7d-2c7d:76 3000-3000:20 3002-3002:2e 309b-309b:20.3099 309c-309c:20.309a
   3200-3200:28.1100.29 3201-3201:28.1102.29 3202-3202:28.1103.29 3203-3203:28.1105.29
   3204-3204:28.1106.29 3205-3205:28.1107.29 3206-3206:28.1109.29 3207-3207:28.110b.29
   3208-3208:28.110c.29 3209-3209:28.110e.29 320a-320a:28.110f.29 320b-320b:28.1110.29
   320c-320c:28.1111.29 320d-320d:28.1112.29 320e-320e:28.ac00.29 320f-320f:28.b098.29
   3210-3210:28.b2e4.29 3211-3211:28.b77c.29 3212-3212:28.b9c8.29 3213-3213:28.bc14.29
   3214-3214:28.c0ac.29 3215-3215:28.c544.29 3216-3216:28.c790.29 3217-3217:28.cc28.29
   3218-3218:28.ce74.29 3219-3219:28.d0c0.29 321a-321a:28.d30c.29 321b-321b:28.d558.29
   321c-321c:28.c8fc.29 321d-321d:28.c624.c804.29 321e-321e:28.c624.d6c4.29
   3220-3220:28.4e00.29 3221-3221:28.4e8c.29 3222-3222:28.4e09.29 3223-3223:28.56db.29
   3224-3224:28.4e94.29 3225-3225:28.516d.29 3226-3226:28.4e03.29 3227-3227:28.516b.29
   3228-3228:28.4e5d.29 3229-3229:28.5341.29 322a-322a:28.6708.29 322b-322b:28.706b.29
   322c-322c:28.6c34.29 322d-322d:28.6728.29 322e-322e:28.91d1.29 322f-322f:28.571f.29
   3230-3230:28.65e5.29 3231-3231:28.682a.29 3232-3232:28.6709.29 3233-3233:28.793e.29
   3234-3234:28.540d.29 3235-3235:28.7279.29 3236-3236:28.8ca1.29 3237-3237:28.795d.29
   3238-3238:28.52b4.29 3239-3239:28.4ee3.29 323a-323a:28.547c.29 323b-323b:28.5b66.29
   323c-323c:28.76e3.29 323d-323d:28.4f01.29 323e-323e:28.8cc7.29 323f-323f:28.5354.29
   3240-3240:28.796d.29 3241-3241:28.4f11.29 3242-3242:28.81ea.29 3243-3243:28.81f3.29
   3250-3250:70.74.65 3251-3251:32.31 3252-3252:32.32 3253-3253:32.33 3254-3254:32.34
   3255-3255:32.35 3256-3256:32.36 3257-3257:32.37 3258-3258:32.38 3259-3259:32.39
   325a-325a:33.30 325b-325b:33.31 325c-325c:33.32 325d-325d:33.33 325e-325e:33.34
   325f-325f:33.35 32b1-32b1:33.36 32b2-32b2:33.37 32b3-32b3:33.38 32b4-32b4:33.39
   32b5-32b5:34.30 32b6-32b6:34.31 32b7-32b7:34.32 32b8-32b8:34.33 32b9-32b9:34.34
   32ba-32ba:34.35 32bb-32bb:34.36 32bc-32bc:34.37 32bd-32bd:34.38 32be-32be:34.39
   32bf-32bf:35.30 32c0-32c0:31.6708 32c1-32c1:32.6708 32c2-32c2:33.6708 32c3-32c3:34.6708
   32c4-32c4:35.6708 32c5-32c5:36.6708 32c6-32c6:37.6708 32c7-32c7:38.6708 32c8-32c8:39.6708
   32c9-32c9:31.30.6708 32ca-32ca:31.31.6708 32cb-32cb:31.32.6708 32cc-32cc:68.67
   32cd-32cd:65.72.67 32ce-32ce:65.76 32cf-32cf:6c.74.64 3358-3358:30.70b9 3359-3359:31.70b9
   335a-335a:32.70b9 335b-335b:33.70b9 335c-335c:34.70b9 335d-335d:35.70b9 335e-335e:36.70b9
   335f-335f:37.70b9 3360-3360:38.70b9 3361-3361:39.70b9 3362-3362:31.30.70b9
   3363-3363:31.31.70b9 3364-3364:31.32.70b9 3365-3365:31.33.70b9 3366-3366:31.34.70b9
   3367-3367:31.35.70b9 3368-3368:31.36.70b9 3369-3369:31.37.70b9 336a-336a:31.38.70b9
   336b-336b:31.39.70b9 336c-336c:32.30.70b9 336d-336d:32.31.70b9 336e-336e:32.32.70b9
   336f-336f:32.33.70b9 3370-3370:32.34.70b9 3371-3371:68.70.61 3372-3372:64.61
   3373-3373:61.75 3374-3374:62.61.72 3375-3375:6f.76 3376-3376:70.63 3377-3377:64.6d
   3378-3378:64.6d.32 3379-3379:64.6d.33 337a-337a:69.75 3380-3380:70.61 3381-3381:6e.61
   3382-3382:3bc.61 3383-3383:6d.61 3384-3384:6b.61 3385-3385:6b.62 3386-3386:6d.62
   3387-3387:67.62 3388-3388:63.61.6c 3389-3389:6b.63.61.6c 338a-338a:70.66 338b-338b:6e.66
   338c-338c:3bc.66 338d-338d:3bc.67 338e-338e:6d.67 338f-338f:6b.67 3390-3390:68.7a
   3391-3391:6b.68.7a 3392-3392:6d.68.7a 3393-3393:67.68.7a 3394-3394:74.68.7a
   3395-3395:3bc.6c 3396-3396:6d.6c 3397-3397:64.6c 3398-3398:6b.6c 3399-3399:66.6d
   339a-339a:6e.6d 339b-339b:3bc.6d 339c-339c:6d.6d 339d-339d:63.6d 339e-339e:6b.6d
   339f-339f:6d.6d.32 33a0-33a0:63.6d.32 33a1-33a1:6d.32 33a2-33a2:6b.6d.32 33a3-33a3:6d.6d.33
   33a4-33a4:63.6d.33 33a5-33a5:6d.33 33a6-33a6:6b.6d.33 33a7-33a7:6d.2215.73
   33a8-33a8:6d.2215.73.32 33a9-33a9:70.61 33aa-33aa:6b.70.61 33ab-33ab:6d.70.61
   33ac-33ac:67.70.61 33ad-33ad:72.61.64 33ae-33ae:72.61.64.2215.73
   33af-33af:72.61.64.2215.73.32 33b0-33b0:70.73 33b1-33b1:6e.73 33b2-33b2:3bc.73
   33b3-33b3:6d.73 33b4-33b4:70.76 33b5-33b5:6e.76 33b6-33b6:3bc.76 33b7-33b7:6d.76
   33b8-33b8:6b.76 33b9-33b9:6d.76 33ba-33ba:70.77 33bb-33bb:6e.77 33bc-33bc:3bc.77
   33bd-33bd:6d.77 33be-33be:6b.77 33bf-33bf:6d.77 33c0-33c0:6b.3c9 33c1-33c1:6d.3c9
   33c3-33c3:62.71 33c4-33c4:63.63 33c5-33c5:63.64 33c6-33c6:63.2215.6b.67 33c8-33c8:64.62
   33c9-33c9:67.79 33ca-33ca:68.61 33cb-33cb:68.70 33cc-33cc:69.6e 33cd-33cd:6b.6b
   33ce-33ce:6b.6d 33cf-33cf:6b.74 33d0-33d0:6c.6d 33d1-33d1:6c.6e 33d2-33d2:6c.6f.67
   33d3-33d3:6c.78 33d4-33d4:6d.62 33d5-33d5:6d.69.6c 33d6-33d6:6d.6f.6c 33d7-33d7:70.68
   33d9-33d9:70.70.6d 33da-33da:70.72 33db-33db:73.72 33dc-33dc:73.76 33dd-33dd:77.62
   33de-33de:76.2215.6d 33df-33df:61.2215.6d 33e0-33e0:31.65e5 33e1-33e1:32.65e5
   33e2-33e2:33.65e5 33e3-33e3:34.65e5 33e4-33e4:35.65e5 33e5-33e5:36.65e5 33e6-33e6:37.65e5
   33e7-33e7:38.65e5 33e8-33e8:39.65e5 33e9-33e9:31.30.65e5 33ea-33ea:31.31.65e5
   33eb-33eb:31.32.65e5 33ec-33ec:31.33.65e5 33ed-33ed:31.34.65e5 33ee-33ee:31.35.65e5
   33ef-33ef:31.36.65e5 33f0-33f0:31.37.65e5 33f1-33f1:31.38.65e5 33f2-33f2:31.39.65e5
   33f3-33f3:32.30.65e5 33f4-33f4:32.31.65e5 33f5-33f5:32.32.65e5 33f6-33f6:32.33.65e5
   33f7-33f7:32.34.65e5 33f8-33f8:32.35.65e5 33f9-33f9:32.36.65e5 33fa-33fa:32.37.65e5
   33fb-33fb:32.38.65e5 33fc-33fc:32.39.65e5 33fd-33fd:33.30.65e5 33fe-33fe:33.31.65e5
   33ff-33ff:67.61.6c a7f1-a7f1:73 a7f2-a7f2:63 a7f3-a7f3:66 a7f4-a7f4:71 fb00-fb00:66.66
   fb01-fb01:66.69 fb02-fb02:66.6c fb03-fb03:66.66.69 fb04-fb04:66.66.6c fb05-fb05:73.74
   fb06-fb06:73.74 fb29-fb29:2b fc5e-fc5e:20.64c.651 fc5f-fc5f:20.64d.651 fc60-fc60:20.64e.651
   fc61-fc61:20.64f.651 fc62-fc62:20.650.651 fc63-fc63:20.651.670
   fdfa-fdfa:635.644.649.20.627.644.644.647.20.639.644.64a.647.20.648.633.644.645
   fdfb-fdfb:62c.644.20.62c.644.627.644.647 fe10-fe10:2c fe13-fe14:3a fe15-fe15:21
   fe16-fe16:3f fe33-fe33:5f fe34-fe34:5f fe35-fe36:28 fe37-fe37:7b fe38-fe38:7d fe47-fe47:5b
   fe48-fe48:5d fe49-fe49:20.305 fe4a-fe4a:20.305 fe4b-fe4b:20.305 fe4c-fe4c:20.305
   fe4d-fe4d:5f fe4e-fe4e:5f fe4f-fe4f:5f fe50-fe50:2c fe54-fe54:3b fe55-fe55:3a fe56-fe56:3f
   fe57-fe57:21 fe59-fe5a:28 fe5b-fe5b:7b fe5c-fe5c:7d fe5f-fe5f:23 fe60-fe60:26 fe61-fe62:2a
   fe63-fe63:2d fe64-fe64:3c fe65-fe65:3e fe66-fe66:3d fe68-fe68:5c fe69-fe6a:24 fe6b-fe6b:40
   fe70-fe70:20.64b fe72-fe72:20.64c fe74-fe74:20.64d fe76-fe76:20.64e fe78-fe78:20.64f
   fe7a-fe7a:20.650 fe7c-fe7c:20.651 fe7e-fe7e:20.652 ff01-ff20:21 ff21-ff3a:61 ff3b-ff5e:5b
   ff61-ff61:2e ffe3-ffe3:20.304 107a5-107a5:71 1ccd6-1ccef:61 1ccf0-1ccf9:30 1d400-1d419:61
   1d41a-1d433:61 1d434-1d44d:61 1d44e-1d454:61 1d456-1d467:69 1d468-1d481:61 1d482-1d49b:61
   1d49c-1d49c:61 1d49e-1d49f:63 1d4a2-1d4a2:67 1d4a5-1d4a6:6a 1d4a9-1d4ac:6e 1d4ae-1d4b5:73
   1d4b6-1d4b9:61 1d4bb-1d4bb:66 1d4bd-1d4c3:68 1d4c5-1d4cf:70 1d4d0-1d4e9:61 1d4ea-1d503:61
   1d504-1d505:61 1d507-1d50a:64 1d50d-1d514:6a 1d516-1d51c:73 1d51e-1d537:61 1d538-1d539:61
   1d53b-1d53e:64 1d540-1d544:69 1d546-1d546:6f 1d54a-1d550:73 1d552-1d56b:61 1d56c-1d585:61
   1d586-1d59f:61 1d5a0-1d5b9:61 1d5ba-1d5d3:61 1d5d4-1d5ed:61 1d5ee-1d607:61 1d608-1d621:61
   1d622-1d63b:61 1d63c-1d655:61 1d656-1d66f:61 1d670-1d689:61 1d68a-1d6a3:61 1d7ce-1d7d7:30
   1d7d8-1d7e1:30 1d7e2-1d7eb:30 1d7ec-1d7f5:30 1d7f6-1d7ff:30 1f101-1f101:30.2c
   1f102-1f102:31.2c 1f103-1f103:32.2c 1f104-1f104:33.2c 1f105-1f105:34.2c 1f106-1f106:35.2c
   1f107-1f107:36.2c 1f108-1f108:37.2c 1f109-1f109:38.2c 1f10a-1f10a:39.2c
   1f110-1f110:28.61.29 1f111-1f111:28.62.29 1f112-1f112:28.63.29 1f113-1f113:28.64.29
   1f114-1f114:28.65.29 1f115-1f115:28.66.29 1f116-1f116:28.67.29 1f117-1f117:28.68.29
   1f118-1f118:28.69.29 1f119-1f119:28.6a.29 1f11a-1f11a:28.6b.29 1f11b-1f11b:28.6c.29
   1f11c-1f11c:28.6d.29 1f11d-1f11d:28.6e.29 1f11e-1f11e:28.6f.29 1f11f-1f11f:28.70.29
   1f120-1f120:28.71.29 1f121-1f121:28.72.29 1f122-1f122:28.73.29 1f123-1f123:28.74.29
   1f124-1f124:28.75.29 1f125-1f125:28.76.29 1f126-1f126:28.77.29 1f127-1f127:28.78.29
   1f128-1f128:28.79.29 1f129-1f129:28.7a.29 1f12a-1f12a:3014.73.3015 1f12b-1f12b:63
   1f12c-1f12c:72 1f12d-1f12d:63.64 1f12e-1f12e:77.7a 1f130-1f149:61 1f14a-1f14a:68.76
   1f14b-1f14b:6d.76 1f14c-1f14c:73.64 1f14d-1f14d:73.73 1f14e-1f14e:70.70.76
   1f14f-1f14f:77.63 1f16a-1f16a:6d.63 1f16b-1f16b:6d.64 1f16c-1f16c:6d.72 1f190-1f190:64.6a
   1fbf0-1fbf9:30"

/-- A run of characters with the code points that replace its first one. -/
structure Replacement where
  first : Nat
  last : Nat
  target : List Nat

def replacement? (word : String) : Option Replacement :=
  match word.splitOn ":" with
  | [run, target] => do
      let (first, last) ← CodeSet.range? run
      some ⟨first, last, (target.splitOn ".").map CodeSet.hexNumber⟩
  | _ => none

def asciiReplacements : Array Replacement :=
  ((asciiReplacementTable.splitOn " ").filterMap replacement?).toArray

/-- The text that replaces a character, if it holds an ASCII character. -/
def asciiReplacement? (c : Char) : Option (List Char) := do
  let found ← asciiReplacements.find? fun r => r.first ≤ c.toNat && c.toNat ≤ r.last
  some (found.target.map fun n => Char.ofNat (n + (c.toNat - found.first)))

end WorkSchema.DomainCharacters
