import Custody.Text.Table

/-!
# `Custody.Domain.Mapping`: what domain names make of characters

Names are compared without regard to case, width and other variants, so a character may stand
for others (capital letters do), or for nothing, or be refused. The tables are those that
Unicode gives for domain names. What normal text does to a character is not repeated here.
-/

set_option autoImplicit false

namespace Custody.Domain

open Text

/-- Characters that stand for others. -/
def variants : List Row := rowsOf [
  "41 61 62 63 64 65 66 67 68 69 6a 6b 6c 6d 6e 6f 70 71 72 73 74 75 76 77 78 79 7a",
  "a0 20",
  "a8 20+308 - 61",
  "af 20+304",
  "b2 32 33 20+301 3bc",
  "b8 20+327 31 6f - 31+2044+34 31+2044+32 33+2044+34 - e0 e1 e2 e3 e4 e5 e6 e7 e8 e9 ea eb ec",
  "cd ed ee ef f0 f1 f2 f3 f4 f5 f6 - f8 f9 fa fb fc fd fe",
  "100 101 - 103 - 105 - 107 - 109 - 10b - 10d - 10f - 111 - 113 - 115 - 117 - 119 - 11b - 11d",
  "11e 11f - 121 - 123 - 125 - 127 - 129 - 12b - 12d - 12f - 69+307 - 69+6a 69+6a 135 - 137",
  "139 13a - 13c - 13e - 6c+b7 6c+b7 142 - 144 - 146 - 148 - 2bc+6e 14b - 14d - 14f - 151 - 153",
  "154 155 - 157 - 159 - 15b - 15d - 15f - 161 - 163 - 165 - 167 - 169 - 16b - 16d - 16f - 171",
  "172 173 - 175 - 177 - ff 17a - 17c - 17e - 73 - 253 183 - 185 - 254 188 - 256 257 18c",
  "18e 1dd 259 25b 192 - 260 263 - 269 268 199",
  "19c 26f 272 - 275 1a1 - 1a3 - 1a5 - 280 1a8 - 283",
  "1ac 1ad - 288 1b0 - 28a 28b 1b4 - 1b6 - 292 1b9",
  "1bc 1bd",
  "1c4 64+17e 64+17e 64+17e 6c+6a 6c+6a 6c+6a 6e+6a 6e+6a 6e+6a 1ce - 1d0 - 1d2 - 1d4 - 1d6",
  "1d7 1d8 - 1da - 1dc",
  "1de 1df - 1e1 - 1e3 - 1e5 - 1e7 - 1e9 - 1eb - 1ed - 1ef",
  "1f1 64+7a 64+7a 64+7a 1f5 - 195 1bf 1f9 - 1fb - 1fd - 1ff - 201 - 203 - 205 - 207 - 209",
  "20a 20b - 20d - 20f - 211 - 213 - 215 - 217 - 219 - 21b - 21d - 21f - 19e - 223 - 225 - 227",
  "228 229 - 22b - 22d - 22f - 231 - 233",
  "23a 2c65 23c - 19a 2c66",
  "241 242 - 180 289 28c 247 - 249 - 24b - 24d - 24f",
  "2b0 68 266 6a 72 279 27b 281 77 79",
  "2d8 20+306 20+307 20+30a 20+328 20+303 20+30b",
  "2e0 263 6c 73 78 295",
  "345 3b9",
  "370 371 - 373",
  "376 377",
  "37a 20+3b9",
  "37f 3f3",
  "384 20+301 20+308+301 3ac - 3ad 3ae 3af - 3cc - 3cd 3ce - 3b1 3b2 3b3 3b4 3b5 3b6 3b7 3b8",
  "399 3b9 3ba 3bb 3bc 3bd 3be 3bf 3c0 3c1 - 3c3 3c4 3c5 3c6 3c7 3c8 3c9 3ca 3cb",
  "3cf 3d7 3b2 3b8 3c5 3cd 3cb 3c6 3c0 - 3d9 - 3db - 3dd - 3df - 3e1 - 3e3 - 3e5 - 3e7 - 3e9",
  "3ea 3eb - 3ed - 3ef - 3ba 3c1 3c3 - 3b8 3b5 - 3f8 - 3c3 3fb",
  "3fd 37b 37c 37d 450 451 452 453 454 455 456 457 458 459 45a 45b 45c 45d 45e 45f 430 431 432",
  "413 433 434 435 436 437 438 439 43a 43b 43c 43d 43e 43f 440 441 442 443 444 445 446 447 448",
  "429 449 44a 44b 44c 44d 44e 44f",
  "460 461 - 463 - 465 - 467 - 469 - 46b - 46d - 46f - 471 - 473 - 475 - 477 - 479 - 47b - 47d",
  "47e 47f - 481",
  "48a 48b - 48d - 48f - 491 - 493 - 495 - 497 - 499 - 49b - 49d - 49f - 4a1 - 4a3 - 4a5 - 4a7",
  "4a8 4a9 - 4ab - 4ad - 4af - 4b1 - 4b3 - 4b5 - 4b7 - 4b9 - 4bb - 4bd - 4bf - 4cf 4c2 - 4c4",
  "4c5 4c6 - 4c8 - 4ca - 4cc - 4ce",
  "4d0 4d1 - 4d3 - 4d5 - 4d7 - 4d9 - 4db - 4dd - 4df - 4e1 - 4e3 - 4e5 - 4e7 - 4e9 - 4eb - 4ed",
  "4ee 4ef - 4f1 - 4f3 - 4f5 - 4f7 - 4f9 - 4fb - 4fd - 4ff - 501 - 503 - 505 - 507 - 509 - 50b",
  "50c 50d - 50f - 511 - 513 - 515 - 517 - 519 - 51b - 51d - 51f - 521 - 523 - 525 - 527 - 529",
  "52a 52b - 52d - 52f",
  "531 561 562 563 564 565 566 567 568 569 56a 56b 56c 56d 56e 56f 570 571 572 573 574 575 576",
  "547 577 578 579 57a 57b 57c 57d 57e 57f 580 581 582 583 584 585 586",
  "558 567",
  "587 565+582",
  "675 627+674 648+674 6c7+674 64a+674",
  "e33 e4d+e32",
  "eb3 ecd+eb2",
  "edc eab+e99 eab+ea1",
  "f0c f0b",
  "f77 fb2+f71+f80 - fb3+f71+f80",
  "10a0 2d00 2d01 2d02 2d03 2d04 2d05 2d06 2d07 2d08 2d09 2d0a 2d0b 2d0c 2d0d 2d0e 2d0f 2d10",
  "10b1 2d11 2d12 2d13 2d14 2d15 2d16 2d17 2d18 2d19 2d1a 2d1b 2d1c 2d1d 2d1e 2d1f 2d20 2d21",
  "10c2 2d22 2d23 2d24 2d25 - 2d27",
  "10cd 2d2d",
  "10fc 10dc",
  "13f8 13f0 13f1 13f2 13f3 13f4 13f5",
  "1c80 432 434 43e 441 442 442 44a 463 a64b 1c8a",
  "1c90 10d0 10d1 10d2 10d3 10d4 10d5 10d6 10d7 10d8 10d9 10da 10db 10dc 10dd 10de 10df 10e0",
  "1ca1 10e1 10e2 10e3 10e4 10e5 10e6 10e7 10e8 10e9 10ea 10eb 10ec 10ed 10ee 10ef 10f0 10f1",
  "1cb2 10f2 10f3 10f4 10f5 10f6 10f7 10f8 10f9 10fa",
  "1cbd 10fd 10fe 10ff",
  "1d2c 61 e6 62 - 64 65 1dd 67 68 69 6a 6b 6c 6d 6e - 6f 223 70 72 74 75 77 61 250 251 1d02 62",
  "1d48 64 65 259 25b 25c 67 - 6b 6d 14b 6f 254 1d16 1d17 70 74 75 1d1d 26f 76 1d25 3b2 3b3 3b4",
  "1d60 3c6 3c7 69 72 75 76 3b2 3b3 3c1 3c6 3c7",
  "1d78 43d",
  "1d9b 252 63 255 f0 25c 66 25f 261 265 268 269 26a 1d7b 29d 26d 1d85 29f 271 270 272 273 274",
  "1db1 275 278 282 283 1ab 289 28a 1d1c 28b 28c 7a 290 291 292 3b8",
  "1e00 1e01 - 1e03 - 1e05 - 1e07 - 1e09 - 1e0b - 1e0d - 1e0f - 1e11 - 1e13 - 1e15 - 1e17",
  "1e18 1e19 - 1e1b - 1e1d - 1e1f - 1e21 - 1e23 - 1e25 - 1e27 - 1e29 - 1e2b - 1e2d - 1e2f",
  "1e30 1e31 - 1e33 - 1e35 - 1e37 - 1e39 - 1e3b - 1e3d - 1e3f - 1e41 - 1e43 - 1e45 - 1e47",
  "1e48 1e49 - 1e4b - 1e4d - 1e4f - 1e51 - 1e53 - 1e55 - 1e57 - 1e59 - 1e5b - 1e5d - 1e5f",
  "1e60 1e61 - 1e63 - 1e65 - 1e67 - 1e69 - 1e6b - 1e6d - 1e6f - 1e71 - 1e73 - 1e75 - 1e77",
  "1e78 1e79 - 1e7b - 1e7d - 1e7f - 1e81 - 1e83 - 1e85 - 1e87 - 1e89 - 1e8b - 1e8d - 1e8f",
  "1e90 1e91 - 1e93 - 1e95",
  "1e9a 61+2be 1e61",
  "1e9e df - 1ea1 - 1ea3 - 1ea5 - 1ea7 - 1ea9 - 1eab - 1ead - 1eaf - 1eb1 - 1eb3 - 1eb5 - 1eb7",
  "1eb8 1eb9 - 1ebb - 1ebd - 1ebf - 1ec1 - 1ec3 - 1ec5 - 1ec7 - 1ec9 - 1ecb - 1ecd - 1ecf",
  "1ed0 1ed1 - 1ed3 - 1ed5 - 1ed7 - 1ed9 - 1edb - 1edd - 1edf - 1ee1 - 1ee3 - 1ee5 - 1ee7",
  "1ee8 1ee9 - 1eeb - 1eed - 1eef - 1ef1 - 1ef3 - 1ef5 - 1ef7 - 1ef9 - 1efb - 1efd - 1eff",
  "1f08 1f00 1f01 1f02 1f03 1f04 1f05 1f06 1f07",
  "1f18 1f10 1f11 1f12 1f13 1f14 1f15",
  "1f28 1f20 1f21 1f22 1f23 1f24 1f25 1f26 1f27",
  "1f38 1f30 1f31 1f32 1f33 1f34 1f35 1f36 1f37",
  "1f48 1f40 1f41 1f42 1f43 1f44 1f45",
  "1f59 1f51 - 1f53 - 1f55 - 1f57",
  "1f68 1f60 1f61 1f62 1f63 1f64 1f65 1f66 1f67",
  "1f80 1f00+3b9 1f01+3b9 1f02+3b9 1f03+3b9 1f04+3b9 1f05+3b9 1f06+3b9 1f07+3b9 1f00+3b9",
  "1f89 1f01+3b9 1f02+3b9 1f03+3b9 1f04+3b9 1f05+3b9 1f06+3b9 1f07+3b9 1f20+3b9 1f21+3b9",
  "1f92 1f22+3b9 1f23+3b9 1f24+3b9 1f25+3b9 1f26+3b9 1f27+3b9 1f20+3b9 1f21+3b9 1f22+3b9",
  "1f9b 1f23+3b9 1f24+3b9 1f25+3b9 1f26+3b9 1f27+3b9 1f60+3b9 1f61+3b9 1f62+3b9 1f63+3b9",
  "1fa4 1f64+3b9 1f65+3b9 1f66+3b9 1f67+3b9 1f60+3b9 1f61+3b9 1f62+3b9 1f63+3b9 1f64+3b9",
  "1fad 1f65+3b9 1f66+3b9 1f67+3b9",
  "1fb2 1f70+3b9 3b1+3b9 3ac+3b9",
  "1fb7 1fb6+3b9 1fb0 1fb1 1f70 3ac 3b1+3b9 20+313 - 20+313 20+342 20+308+342 1f74+3b9 3b7+3b9",
  "1fc4 3ae+3b9",
  "1fc7 1fc6+3b9 1f72 3ad 1f74 3ae 3b7+3b9 20+313+300 20+313+301 20+313+342",
  "1fd8 1fd0 1fd1 1f76 3af - 20+314+300 20+314+301 20+314+342",
  "1fe8 1fe0 1fe1 1f7a 3cd 1fe5 20+308+300 20+308+301",
  "1ff2 1f7c+3b9 3c9+3b9 3ce+3b9",
  "1ff7 1ff6+3b9 1f78 3cc 1f7c 3ce 3c9+3b9 20+301 20+314 - 20 20 20 20 20 20 20 20 20 20 20",
  "2011 2010",
  "2017 20+333",
  "202f 20",
  "2033 2032+2032 2032+2032+2032 - 2035+2035 2035+2035+2035",
  "203c 21+21 - 20+305",
  "2047 3f+3f 3f+21 21+3f",
  "2057 2032+2032+2032+2032",
  "205f 20",
  "2070 30 69",
  "2074 34 35 36 37 38 39 2b 2212 3d 28 29 6e 30 31 32 33 34 35 36 37 38 39 2b 2212 3d 28 29",
  "2090 61 65 6f 78 259 68 6b 6c 6d 6e 70 73 74",
  "20a8 72+73",
  "2100 61+2f+63 61+2f+73 63 b0+63 - 63+2f+6f 63+2f+75 25b - b0+66 67 68 68 68 68 127 69 69 6c",
  "2113 6c - 6e 6e+6f",
  "2119 70 71 72 72 72",
  "2120 73+6d 74+65+6c 74+6d - 7a - 3c9 - 7a - 6b e5 62 63 - 65 65 66 214e 6d 6f 5d0 5d1 5d2",
  "2138 5d3 69 - 66+61+78 3c0 3b3 3b3 3c0 2211",
  "2145 64 64 65 69 6a",
  "2150 31+2044+37 31+2044+39 31+2044+31+30 31+2044+33 32+2044+33 31+2044+35 32+2044+35",
  "2157 33+2044+35 34+2044+35 31+2044+36 35+2044+36 31+2044+38 33+2044+38 35+2044+38 37+2044+38",
  "215f 31+2044 69 69+69 69+69+69 69+76 76 76+69 76+69+69 76+69+69+69 69+78 78 78+69 78+69+69",
  "216c 6c 63 64 6d 69 69+69 69+69+69 69+76 76 76+69 76+69+69 76+69+69+69 69+78 78 78+69",
  "217b 78+69+69 6c 63 64 6d",
  "2183 2184",
  "2189 30+2044+33",
  "222c 222b+222b 222b+222b+222b - 222e+222e 222e+222e+222e",
  "2460 31 32 33 34 35 36 37 38 39 31+30 31+31 31+32 31+33 31+34 31+35 31+36 31+37 31+38 31+39",
  "2473 32+30 28+31+29 28+32+29 28+33+29 28+34+29 28+35+29 28+36+29 28+37+29 28+38+29 28+39+29",
  "247d 28+31+30+29 28+31+31+29 28+31+32+29 28+31+33+29 28+31+34+29 28+31+35+29 28+31+36+29",
  "2484 28+31+37+29 28+31+38+29 28+31+39+29 28+32+30+29",
  "249c 28+61+29 28+62+29 28+63+29 28+64+29 28+65+29 28+66+29 28+67+29 28+68+29 28+69+29",
  "24a5 28+6a+29 28+6b+29 28+6c+29 28+6d+29 28+6e+29 28+6f+29 28+70+29 28+71+29 28+72+29",
  "24ae 28+73+29 28+74+29 28+75+29 28+76+29 28+77+29 28+78+29 28+79+29 28+7a+29 61 62 63 64 65",
  "24bb 66 67 68 69 6a 6b 6c 6d 6e 6f 70 71 72 73 74 75 76 77 78 79 7a 61 62 63 64 65 66 67 68",
  "24d8 69 6a 6b 6c 6d 6e 6f 70 71 72 73 74 75 76 77 78 79 7a 30",
  "2a0c 222b+222b+222b+222b",
  "2a74 3a+3a+3d 3d+3d 3d+3d+3d",
  "2c00 2c30 2c31 2c32 2c33 2c34 2c35 2c36 2c37 2c38 2c39 2c3a 2c3b 2c3c 2c3d 2c3e 2c3f 2c40",
  "2c11 2c41 2c42 2c43 2c44 2c45 2c46 2c47 2c48 2c49 2c4a 2c4b 2c4c 2c4d 2c4e 2c4f 2c50 2c51",
  "2c22 2c52 2c53 2c54 2c55 2c56 2c57 2c58 2c59 2c5a 2c5b 2c5c 2c5d 2c5e 2c5f",
  "2c60 2c61 - 26b 1d7d 27d",
  "2c67 2c68 - 2c6a - 2c6c - 251 271 250 252 - 2c73",
  "2c75 2c76",
  "2c7c 6a 76 23f 240 2c81 - 2c83 - 2c85 - 2c87 - 2c89 - 2c8b - 2c8d - 2c8f - 2c91 - 2c93",
  "2c94 2c95 - 2c97 - 2c99 - 2c9b - 2c9d - 2c9f - 2ca1 - 2ca3 - 2ca5 - 2ca7 - 2ca9 - 2cab",
  "2cac 2cad - 2caf - 2cb1 - 2cb3 - 2cb5 - 2cb7 - 2cb9 - 2cbb - 2cbd - 2cbf - 2cc1 - 2cc3",
  "2cc4 2cc5 - 2cc7 - 2cc9 - 2ccb - 2ccd - 2ccf - 2cd1 - 2cd3 - 2cd5 - 2cd7 - 2cd9 - 2cdb",
  "2cdc 2cdd - 2cdf - 2ce1 - 2ce3",
  "2ceb 2cec - 2cee",
  "2cf2 2cf3",
  "2d6f 2d61",
  "2e9f 6bcd",
  "2ef3 9f9f",
  "2f00 4e00 4e28 4e36 4e3f 4e59 4e85 4e8c 4ea0 4eba 513f 5165 516b 5182 5196 51ab 51e0 51f5",
  "2f11 5200 529b 52f9 5315 531a 5338 5341 535c 5369 5382 53b6 53c8 53e3 56d7 571f 58eb 5902",
  "2f22 590a 5915 5927 5973 5b50 5b80 5bf8 5c0f 5c22 5c38 5c6e 5c71 5ddb 5de5 5df1 5dfe 5e72",
  "2f33 5e7a 5e7f 5ef4 5efe 5f0b 5f13 5f50 5f61 5f73 5fc3 6208 6236 624b 652f 6534 6587 6597",
  "2f44 65a4 65b9 65e0 65e5 66f0 6708 6728 6b20 6b62 6b79 6bb3 6bcb 6bd4 6bdb 6c0f 6c14 6c34",
  "2f55 706b 722a 7236 723b 723f 7247 7259 725b 72ac 7384 7389 74dc 74e6 7518 751f 7528 7530",
  "2f66 758b 7592 7676 767d 76ae 76bf 76ee 77db 77e2 77f3 793a 79b8 79be 7a74 7acb 7af9 7c73",
  "2f77 7cf8 7f36 7f51 7f8a 7fbd 8001 800c 8012 8033 807f 8089 81e3 81ea 81f3 81fc 820c 821b",
  "2f88 821f 826e 8272 8278 864d 866b 8840 884c 8863 897e 898b 89d2 8a00 8c37 8c46 8c55 8c78",
  "2f99 8c9d 8d64 8d70 8db3 8eab 8eca 8f9b 8fb0 8fb5 9091 9149 91c6 91cc 91d1 9577 9580 961c",
  "2faa 96b6 96b9 96e8 9751 975e 9762 9769 97cb 97ed 97f3 9801 98a8 98db 98df 9996 9999 99ac",
  "2fbb 9aa8 9ad8 9adf 9b25 9b2f 9b32 9b3c 9b5a 9ce5 9e75 9e7f 9ea5 9ebb 9ec3 9ecd 9ed1 9ef9",
  "2fcc 9efd 9f0e 9f13 9f20 9f3b 9f4a 9f52 9f8d 9f9c 9fa0",
  "3000 20 - 2e",
  "3036 3012 - 5341 5344 5345",
  "309b 20+3099 20+309a",
  "309f 3088+308a",
  "30ff 30b3+30c8",
  "3131 1100 1101 11aa 1102 11ac 11ad 1103 1104 1105 11b0 11b1 11b2 11b3 11b4 11b5 111a 1106",
  "3142 1107 1108 1121 1109 110a 110b 110c 110d 110e 110f 1110 1111 1112 1161 1162 1163 1164",
  "3153 1165 1166 1167 1168 1169 116a 116b 116c 116d 116e 116f 1170 1171 1172 1173 1174 1175",
  "3165 1114 1115 11c7 11c8 11cc 11ce 11d3 11d7 11d9 111c 11dd 11df 111d 111e 1120 1122 1123",
  "3176 1127 1129 112b 112c 112d 112e 112f 1132 1136 1140 1147 114c 11f1 11f2 1157 1158 1159",
  "3187 1184 1185 1188 1191 1192 1194 119e 11a1",
  "3192 4e00 4e8c 4e09 56db 4e0a 4e2d 4e0b 7532 4e59 4e19 4e01 5929 5730 4eba",
  "3200 28+1100+29 28+1102+29 28+1103+29 28+1105+29 28+1106+29 28+1107+29 28+1109+29 28+110b+29",
  "3208 28+110c+29 28+110e+29 28+110f+29 28+1110+29 28+1111+29 28+1112+29 28+ac00+29 28+b098+29",
  "3210 28+b2e4+29 28+b77c+29 28+b9c8+29 28+bc14+29 28+c0ac+29 28+c544+29 28+c790+29 28+cc28+29",
  "3218 28+ce74+29 28+d0c0+29 28+d30c+29 28+d558+29 28+c8fc+29 28+c624+c804+29 28+c624+d6c4+29",
  "3220 28+4e00+29 28+4e8c+29 28+4e09+29 28+56db+29 28+4e94+29 28+516d+29 28+4e03+29 28+516b+29",
  "3228 28+4e5d+29 28+5341+29 28+6708+29 28+706b+29 28+6c34+29 28+6728+29 28+91d1+29 28+571f+29",
  "3230 28+65e5+29 28+682a+29 28+6709+29 28+793e+29 28+540d+29 28+7279+29 28+8ca1+29 28+795d+29",
  "3238 28+52b4+29 28+4ee3+29 28+547c+29 28+5b66+29 28+76e3+29 28+4f01+29 28+8cc7+29 28+5354+29",
  "3240 28+796d+29 28+4f11+29 28+81ea+29 28+81f3+29 554f 5e7c 6587 7b8f",
  "3250 70+74+65 32+31 32+32 32+33 32+34 32+35 32+36 32+37 32+38 32+39 33+30 33+31 33+32 33+33",
  "325e 33+34 33+35 1100 1102 1103 1105 1106 1107 1109 110b 110c 110e 110f 1110 1111 1112 ac00",
  "326f b098 b2e4 b77c b9c8 bc14 c0ac c544 c790 cc28 ce74 d0c0 d30c d558 cc38+ace0 c8fc+c758",
  "327e c6b0 - 4e00 4e8c 4e09 56db 4e94 516d 4e03 516b 4e5d 5341 6708 706b 6c34 6728 91d1 571f",
  "3290 65e5 682a 6709 793e 540d 7279 8ca1 795d 52b4 79d8 7537 5973 9069 512a 5370 6ce8 9805",
  "32a1 4f11 5199 6b63 4e0a 4e2d 4e0b 5de6 53f3 533b 5b97 5b66 76e3 4f01 8cc7 5354 591c 33+36",
  "32b2 33+37 33+38 33+39 34+30 34+31 34+32 34+33 34+34 34+35 34+36 34+37 34+38 34+39 35+30",
  "32c0 31+6708 32+6708 33+6708 34+6708 35+6708 36+6708 37+6708 38+6708 39+6708 31+30+6708",
  "32ca 31+31+6708 31+32+6708 68+67 65+72+67 65+76 6c+74+64 30a2 30a4 30a6 30a8 30aa 30ab 30ad",
  "32d7 30af 30b1 30b3 30b5 30b7 30b9 30bb 30bd 30bf 30c1 30c4 30c6 30c8 30ca 30cb 30cc 30cd",
  "32e8 30ce 30cf 30d2 30d5 30d8 30db 30de 30df 30e0 30e1 30e2 30e4 30e6 30e8 30e9 30ea 30eb",
  "32f9 30ec 30ed 30ef 30f0 30f1 30f2 4ee4+548c 30a2+30d1+30fc+30c8 30a2+30eb+30d5+30a1",
  "3302 30a2+30f3+30da+30a2 30a2+30fc+30eb 30a4+30cb+30f3+30b0 30a4+30f3+30c1 30a6+30a9+30f3",
  "3307 30a8+30b9+30af+30fc+30c9 30a8+30fc+30ab+30fc 30aa+30f3+30b9 30aa+30fc+30e0",
  "330b 30ab+30a4+30ea 30ab+30e9+30c3+30c8 30ab+30ed+30ea+30fc 30ac+30ed+30f3 30ac+30f3+30de",
  "3310 30ae+30ac 30ae+30cb+30fc 30ad+30e5+30ea+30fc 30ae+30eb+30c0+30fc 30ad+30ed",
  "3315 30ad+30ed+30b0+30e9+30e0 30ad+30ed+30e1+30fc+30c8+30eb 30ad+30ed+30ef+30c3+30c8",
  "3318 30b0+30e9+30e0 30b0+30e9+30e0+30c8+30f3 30af+30eb+30bc+30a4+30ed 30af+30ed+30fc+30cd",
  "331c 30b1+30fc+30b9 30b3+30eb+30ca 30b3+30fc+30dd 30b5+30a4+30af+30eb",
  "3320 30b5+30f3+30c1+30fc+30e0 30b7+30ea+30f3+30b0 30bb+30f3+30c1 30bb+30f3+30c8",
  "3324 30c0+30fc+30b9 30c7+30b7 30c9+30eb 30c8+30f3 30ca+30ce 30ce+30c3+30c8 30cf+30a4+30c4",
  "332b 30d1+30fc+30bb+30f3+30c8 30d1+30fc+30c4 30d0+30fc+30ec+30eb 30d4+30a2+30b9+30c8+30eb",
  "332f 30d4+30af+30eb 30d4+30b3 30d3+30eb 30d5+30a1+30e9+30c3+30c9 30d5+30a3+30fc+30c8",
  "3334 30d6+30c3+30b7+30a7+30eb 30d5+30e9+30f3 30d8+30af+30bf+30fc+30eb 30da+30bd",
  "3338 30da+30cb+30d2 30d8+30eb+30c4 30da+30f3+30b9 30da+30fc+30b8 30d9+30fc+30bf",
  "333d 30dd+30a4+30f3+30c8 30dc+30eb+30c8 30db+30f3 30dd+30f3+30c9 30db+30fc+30eb",
  "3342 30db+30fc+30f3 30de+30a4+30af+30ed 30de+30a4+30eb 30de+30c3+30cf 30de+30eb+30af",
  "3347 30de+30f3+30b7+30e7+30f3 30df+30af+30ed+30f3 30df+30ea 30df+30ea+30d0+30fc+30eb",
  "334b 30e1+30ac 30e1+30ac+30c8+30f3 30e1+30fc+30c8+30eb 30e4+30fc+30c9 30e4+30fc+30eb",
  "3350 30e6+30a2+30f3 30ea+30c3+30c8+30eb 30ea+30e9 30eb+30d4+30fc 30eb+30fc+30d6+30eb",
  "3355 30ec+30e0 30ec+30f3+30c8+30b2+30f3 30ef+30c3+30c8 30+70b9 31+70b9 32+70b9 33+70b9",
  "335c 34+70b9 35+70b9 36+70b9 37+70b9 38+70b9 39+70b9 31+30+70b9 31+31+70b9 31+32+70b9",
  "3365 31+33+70b9 31+34+70b9 31+35+70b9 31+36+70b9 31+37+70b9 31+38+70b9 31+39+70b9 32+30+70b9",
  "336d 32+31+70b9 32+32+70b9 32+33+70b9 32+34+70b9 68+70+61 64+61 61+75 62+61+72 6f+76 70+63",
  "3377 64+6d 64+6d+32 64+6d+33 69+75 5e73+6210 662d+548c 5927+6b63 660e+6cbb",
  "337f 682a+5f0f+4f1a+793e 70+61 6e+61 3bc+61 6d+61 6b+61 6b+62 6d+62 67+62 63+61+6c",
  "3389 6b+63+61+6c 70+66 6e+66 3bc+66 3bc+67 6d+67 6b+67 68+7a 6b+68+7a 6d+68+7a 67+68+7a",
  "3394 74+68+7a 3bc+6c 6d+6c 64+6c 6b+6c 66+6d 6e+6d 3bc+6d 6d+6d 63+6d 6b+6d 6d+6d+32",
  "33a0 63+6d+32 6d+32 6b+6d+32 6d+6d+33 63+6d+33 6d+33 6b+6d+33 6d+2215+73 6d+2215+73+32 70+61",
  "33aa 6b+70+61 6d+70+61 67+70+61 72+61+64 72+61+64+2215+73 72+61+64+2215+73+32 70+73 6e+73",
  "33b2 3bc+73 6d+73 70+76 6e+76 3bc+76 6d+76 6b+76 6d+76 70+77 6e+77 3bc+77 6d+77 6b+77 6d+77",
  "33c0 6b+3c9 6d+3c9 - 62+71 63+63 63+64 63+2215+6b+67 - 64+62 67+79 68+61 68+70 69+6e 6b+6b",
  "33ce 6b+6d 6b+74 6c+6d 6c+6e 6c+6f+67 6c+78 6d+62 6d+69+6c 6d+6f+6c 70+68 - 70+70+6d 70+72",
  "33db 73+72 73+76 77+62 76+2215+6d 61+2215+6d 31+65e5 32+65e5 33+65e5 34+65e5 35+65e5 36+65e5",
  "33e6 37+65e5 38+65e5 39+65e5 31+30+65e5 31+31+65e5 31+32+65e5 31+33+65e5 31+34+65e5",
  "33ee 31+35+65e5 31+36+65e5 31+37+65e5 31+38+65e5 31+39+65e5 32+30+65e5 32+31+65e5 32+32+65e5",
  "33f6 32+33+65e5 32+34+65e5 32+35+65e5 32+36+65e5 32+37+65e5 32+38+65e5 32+39+65e5 33+30+65e5",
  "33fe 33+31+65e5 67+61+6c",
  "a640 a641 - a643 - a645 - a647 - a649 - a64b - a64d - a64f - a651 - a653 - a655 - a657",
  "a658 a659 - a65b - a65d - a65f - a661 - a663 - a665 - a667 - a669 - a66b - a66d",
  "a680 a681 - a683 - a685 - a687 - a689 - a68b - a68d - a68f - a691 - a693 - a695 - a697",
  "a698 a699 - a69b - 44a 44c",
  "a722 a723 - a725 - a727 - a729 - a72b - a72d - a72f",
  "a732 a733 - a735 - a737 - a739 - a73b - a73d - a73f - a741 - a743 - a745 - a747 - a749",
  "a74a a74b - a74d - a74f - a751 - a753 - a755 - a757 - a759 - a75b - a75d - a75f - a761",
  "a762 a763 - a765 - a767 - a769 - a76b - a76d - a76f - a76f",
  "a779 a77a - a77c - 1d79 a77f - a781 - a783 - a785 - a787",
  "a78b a78c - 265",
  "a790 a791 - a793",
  "a796 a797 - a799 - a79b - a79d - a79f - a7a1 - a7a3 - a7a5 - a7a7 - a7a9 - 266 25c 261 26c",
  "a7ae 26a - 29e 287 29d ab53 a7b5 - a7b7 - a7b9 - a7bb - a7bd - a7bf - a7c1 - a7c3 - a794 282",
  "a7c6 1d8e a7c8 - a7ca - 264 a7cd - a7cf - a7d1 - a7d3 - a7d5 - a7d7 - a7d9 - a7db - 19b",
  "a7f1 73 63 66 71 a7f6",
  "a7f8 127 153",
  "ab5c a727 ab37 26b ab52",
  "ab69 28d",
  "ab70 13a0 13a1 13a2 13a3 13a4 13a5 13a6 13a7 13a8 13a9 13aa 13ab 13ac 13ad 13ae 13af 13b0",
  "ab81 13b1 13b2 13b3 13b4 13b5 13b6 13b7 13b8 13b9 13ba 13bb 13bc 13bd 13be 13bf 13c0 13c1",
  "ab92 13c2 13c3 13c4 13c5 13c6 13c7 13c8 13c9 13ca 13cb 13cc 13cd 13ce 13cf 13d0 13d1 13d2",
  "aba3 13d3 13d4 13d5 13d6 13d7 13d8 13d9 13da 13db 13dc 13dd 13de 13df 13e0 13e1 13e2 13e3",
  "abb4 13e4 13e5 13e6 13e7 13e8 13e9 13ea 13eb 13ec 13ed 13ee 13ef",
  "fb00 66+66 66+69 66+6c 66+66+69 66+66+6c 73+74 73+74",
  "fb13 574+576 574+565 574+56b 57e+576 574+56d",
  "fb20 5e2 5d0 5d3 5d4 5db 5dc 5dd 5e8 5ea 2b",
  "fb4f 5d0+5dc 671 671 67b 67b 67b 67b 67e 67e 67e 67e 680 680 680 680 67a 67a 67a 67a 67f 67f",
  "fb64 67f 67f 679 679 679 679 6a4 6a4 6a4 6a4 6a6 6a6 6a6 6a6 684 684 684 684 683 683 683 683",
  "fb7a 686 686 686 686 687 687 687 687 68d 68d 68c 68c 68e 68e 688 688 698 698 691 691 6a9 6a9",
  "fb90 6a9 6a9 6af 6af 6af 6af 6b3 6b3 6b3 6b3 6b1 6b1 6b1 6b1 6ba 6ba 6bb 6bb 6bb 6bb 6c0 6c0",
  "fba6 6c1 6c1 6c1 6c1 6be 6be 6be 6be 6d2 6d2 6d3 6d3",
  "fbd3 6ad 6ad 6ad 6ad 6c7 6c7 6c6 6c6 6c8 6c8 6c7+674 6cb 6cb 6c5 6c5 6c9 6c9 6d0 6d0 6d0 6d0",
  "fbe8 649 649 626+627 626+627 626+6d5 626+6d5 626+648 626+648 626+6c7 626+6c7 626+6c6 626+6c6",
  "fbf4 626+6c8 626+6c8 626+6d0 626+6d0 626+6d0 626+649 626+649 626+649 6cc 6cc 6cc 6cc 626+62c",
  "fc01 626+62d 626+645 626+649 626+64a 628+62c 628+62d 628+62e 628+645 628+649 628+64a 62a+62c",
  "fc0c 62a+62d 62a+62e 62a+645 62a+649 62a+64a 62b+62c 62b+645 62b+649 62b+64a 62c+62d 62c+645",
  "fc17 62d+62c 62d+645 62e+62c 62e+62d 62e+645 633+62c 633+62d 633+62e 633+645 635+62d 635+645",
  "fc22 636+62c 636+62d 636+62e 636+645 637+62d 637+645 638+645 639+62c 639+645 63a+62c 63a+645",
  "fc2d 641+62c 641+62d 641+62e 641+645 641+649 641+64a 642+62d 642+645 642+649 642+64a 643+627",
  "fc38 643+62c 643+62d 643+62e 643+644 643+645 643+649 643+64a 644+62c 644+62d 644+62e 644+645",
  "fc43 644+649 644+64a 645+62c 645+62d 645+62e 645+645 645+649 645+64a 646+62c 646+62d 646+62e",
  "fc4e 646+645 646+649 646+64a 647+62c 647+645 647+649 647+64a 64a+62c 64a+62d 64a+62e 64a+645",
  "fc59 64a+649 64a+64a 630+670 631+670 649+670 20+64c+651 20+64d+651 20+64e+651 20+64f+651",
  "fc62 20+650+651 20+651+670 626+631 626+632 626+645 626+646 626+649 626+64a 628+631 628+632",
  "fc6c 628+645 628+646 628+649 628+64a 62a+631 62a+632 62a+645 62a+646 62a+649 62a+64a 62b+631",
  "fc77 62b+632 62b+645 62b+646 62b+649 62b+64a 641+649 641+64a 642+649 642+64a 643+627 643+644",
  "fc82 643+645 643+649 643+64a 644+645 644+649 644+64a 645+627 645+645 646+631 646+632 646+645",
  "fc8d 646+646 646+649 646+64a 649+670 64a+631 64a+632 64a+645 64a+646 64a+649 64a+64a 626+62c",
  "fc98 626+62d 626+62e 626+645 626+647 628+62c 628+62d 628+62e 628+645 628+647 62a+62c 62a+62d",
  "fca3 62a+62e 62a+645 62a+647 62b+645 62c+62d 62c+645 62d+62c 62d+645 62e+62c 62e+645 633+62c",
  "fcae 633+62d 633+62e 633+645 635+62d 635+62e 635+645 636+62c 636+62d 636+62e 636+645 637+62d",
  "fcb9 638+645 639+62c 639+645 63a+62c 63a+645 641+62c 641+62d 641+62e 641+645 642+62d 642+645",
  "fcc4 643+62c 643+62d 643+62e 643+644 643+645 644+62c 644+62d 644+62e 644+645 644+647 645+62c",
  "fccf 645+62d 645+62e 645+645 646+62c 646+62d 646+62e 646+645 646+647 647+62c 647+645 647+670",
  "fcda 64a+62c 64a+62d 64a+62e 64a+645 64a+647 626+645 626+647 628+645 628+647 62a+645 62a+647",
  "fce5 62b+645 62b+647 633+645 633+647 634+645 634+647 643+644 643+645 644+645 646+645 646+647",
  "fcf0 64a+645 64a+647 640+64e+651 640+64f+651 640+650+651 637+649 637+64a 639+649 639+64a",
  "fcf9 63a+649 63a+64a 633+649 633+64a 634+649 634+64a 62d+649 62d+64a 62c+649 62c+64a 62e+649",
  "fd04 62e+64a 635+649 635+64a 636+649 636+64a 634+62c 634+62d 634+62e 634+645 634+631 633+631",
  "fd0f 635+631 636+631 637+649 637+64a 639+649 639+64a 63a+649 63a+64a 633+649 633+64a 634+649",
  "fd1a 634+64a 62d+649 62d+64a 62c+649 62c+64a 62e+649 62e+64a 635+649 635+64a 636+649 636+64a",
  "fd25 634+62c 634+62d 634+62e 634+645 634+631 633+631 635+631 636+631 634+62c 634+62d 634+62e",
  "fd30 634+645 633+647 634+647 637+645 633+62c 633+62d 633+62e 634+62c 634+62d 634+62e 637+645",
  "fd3b 638+645 627+64b 627+64b",
  "fd50 62a+62c+645 62a+62d+62c 62a+62d+62c 62a+62d+645 62a+62e+645 62a+645+62c 62a+645+62d",
  "fd57 62a+645+62e 62c+645+62d 62c+645+62d 62d+645+64a 62d+645+649 633+62d+62c 633+62c+62d",
  "fd5e 633+62c+649 633+645+62d 633+645+62d 633+645+62c 633+645+645 633+645+645 635+62d+62d",
  "fd65 635+62d+62d 635+645+645 634+62d+645 634+62d+645 634+62c+64a 634+645+62e 634+645+62e",
  "fd6c 634+645+645 634+645+645 636+62d+649 636+62e+645 636+62e+645 637+645+62d 637+645+62d",
  "fd73 637+645+645 637+645+64a 639+62c+645 639+645+645 639+645+645 639+645+649 63a+645+645",
  "fd7a 63a+645+64a 63a+645+649 641+62e+645 641+62e+645 642+645+62d 642+645+645 644+62d+645",
  "fd81 644+62d+64a 644+62d+649 644+62c+62c 644+62c+62c 644+62e+645 644+62e+645 644+645+62d",
  "fd88 644+645+62d 645+62d+62c 645+62d+645 645+62d+64a 645+62c+62d 645+62c+645 645+62e+62c",
  "fd8f 645+62e+645",
  "fd92 645+62c+62e 647+645+62c 647+645+645 646+62d+645 646+62d+649 646+62c+645 646+62c+645",
  "fd99 646+62c+649 646+645+64a 646+645+649 64a+645+645 64a+645+645 628+62e+64a 62a+62c+64a",
  "fda0 62a+62c+649 62a+62e+64a 62a+62e+649 62a+645+64a 62a+645+649 62c+645+64a 62c+62d+649",
  "fda7 62c+645+649 633+62e+649 635+62d+64a 634+62d+64a 636+62d+64a 644+62c+64a 644+645+64a",
  "fdae 64a+62d+64a 64a+62c+64a 64a+645+64a 645+645+64a 642+645+64a 646+62d+64a 642+645+62d",
  "fdb5 644+62d+645 639+645+64a 643+645+64a 646+62c+62d 645+62e+64a 644+62c+645 643+645+645",
  "fdbc 644+62c+645 646+62c+62d 62c+62d+64a 62d+62c+64a 645+62c+64a 641+645+64a 628+62d+64a",
  "fdc3 643+645+645 639+62c+645 635+645+645 633+62e+64a 646+62c+64a",
  "fdf0 635+644+6d2 642+644+6d2 627+644+644+647 627+643+628+631 645+62d+645+62f 635+644+639+645",
  "fdf6 631+633+648+644 639+644+64a+647 648+633+644+645 635+644+649",
  "fdfa 635+644+649+20+627+644+644+647+20+639+644+64a+647+20+648+633+644+645",
  "fdfb 62c+644+20+62c+644+627+644+647 631+6cc+627+644",
  "fe10 2c 3001 - 3a 3b 21 3f 3016 3017",
  "fe31 2014 2013 5f 5f 28 29 7b 7d 3014 3015 3010 3011 300a 300b 3008 3009 300c 300d 300e 300f",
  "fe47 5b 5d 20+305 20+305 20+305 20+305 5f 5f 5f 2c 3001",
  "fe54 3b 3a 3f 21 2014 28 29 7b 7d 3014 3015 23 26 2a 2b 2d 3c 3e 3d - 5c 24 25 40",
  "fe70 20+64b 640+64b 20+64c - 20+64d - 20+64e 640+64e 20+64f 640+64f 20+650 640+650 20+651",
  "fe7d 640+651 20+652 640+652 621 622 622 623 623 624 624 625 625 626 626 626 626 627 627 628",
  "fe90 628 628 628 629 629 62a 62a 62a 62a 62b 62b 62b 62b 62c 62c 62c 62c 62d 62d 62d 62d 62e",
  "fea6 62e 62e 62e 62f 62f 630 630 631 631 632 632 633 633 633 633 634 634 634 634 635 635 635",
  "febc 635 636 636 636 636 637 637 637 637 638 638 638 638 639 639 639 639 63a 63a 63a 63a 641",
  "fed2 641 641 641 642 642 642 642 643 643 643 643 644 644 644 644 645 645 645 645 646 646 646",
  "fee8 646 647 647 647 647 648 648 649 649 64a 64a 64a 64a 644+622 644+622 644+623 644+623",
  "fef9 644+625 644+625 644+627 644+627",
  "ff01 21 22 23 24 25 26 27 28 29 2a 2b 2c 2d 2e 2f 30 31 32 33 34 35 36 37 38 39 3a 3b 3c 3d",
  "ff1e 3e 3f 40 61 62 63 64 65 66 67 68 69 6a 6b 6c 6d 6e 6f 70 71 72 73 74 75 76 77 78 79 7a",
  "ff3b 5b 5c 5d 5e 5f 60 61 62 63 64 65 66 67 68 69 6a 6b 6c 6d 6e 6f 70 71 72 73 74 75 76 77",
  "ff58 78 79 7a 7b 7c 7d 7e 2985 2986 2e 300c 300d 3001 30fb 30f2 30a1 30a3 30a5 30a7 30a9",
  "ff6c 30e3 30e5 30e7 30c3 30fc 30a2 30a4 30a6 30a8 30aa 30ab 30ad 30af 30b1 30b3 30b5 30b7",
  "ff7d 30b9 30bb 30bd 30bf 30c1 30c4 30c6 30c8 30ca 30cb 30cc 30cd 30ce 30cf 30d2 30d5 30d8",
  "ff8e 30db 30de 30df 30e0 30e1 30e2 30e4 30e6 30e8 30e9 30ea 30eb 30ec 30ed 30ef 30f3 3099",
  "ff9f 309a - 1100 1101 11aa 1102 11ac 11ad 1103 1104 1105 11b0 11b1 11b2 11b3 11b4 11b5 111a",
  "ffb1 1106 1107 1108 1121 1109 110a 110b 110c 110d 110e 110f 1110 1111 1112",
  "ffc2 1161 1162 1163 1164 1165 1166",
  "ffca 1167 1168 1169 116a 116b 116c",
  "ffd2 116d 116e 116f 1170 1171 1172",
  "ffda 1173 1174 1175",
  "ffe0 a2 a3 ac 20+304 a6 a5 20a9 - 2502 2190 2191 2192 2193 25a0 25cb",
  "10400 10428 10429 1042a 1042b 1042c 1042d 1042e 1042f 10430 10431 10432 10433 10434 10435",
  "1040e 10436 10437 10438 10439 1043a 1043b 1043c 1043d 1043e 1043f 10440 10441 10442 10443",
  "1041c 10444 10445 10446 10447 10448 10449 1044a 1044b 1044c 1044d 1044e 1044f",
  "104b0 104d8 104d9 104da 104db 104dc 104dd 104de 104df 104e0 104e1 104e2 104e3 104e4 104e5",
  "104be 104e6 104e7 104e8 104e9 104ea 104eb 104ec 104ed 104ee 104ef 104f0 104f1 104f2 104f3",
  "104cc 104f4 104f5 104f6 104f7 104f8 104f9 104fa 104fb",
  "10570 10597 10598 10599 1059a 1059b 1059c 1059d 1059e 1059f 105a0 105a1 - 105a3 105a4 105a5",
  "1057f 105a6 105a7 105a8 105a9 105aa 105ab 105ac 105ad 105ae 105af 105b0 105b1 - 105b3 105b4",
  "1058e 105b5 105b6 105b7 105b8 105b9 - 105bb 105bc",
  "10781 2d0 2d1 e6 299 253 - 2a3 ab66 2a5 2a4 256 257 1d91 258 25e 2a9 264 262 260 29b 127 29c",
  "10797 267 284 2aa 2ab 26c 1df04 a78e 26e 1df05 28e 1df06 f8 276 277 71 27a 1df08 27d 27e 280",
  "107ab 2a8 2a6 ab67 2a7 288 2c71 - 28f 2a1 2a2 298 1c0 1c1 1c2 1df0a 1df1e",
  "10c80 10cc0 10cc1 10cc2 10cc3 10cc4 10cc5 10cc6 10cc7 10cc8 10cc9 10cca 10ccb 10ccc 10ccd",
  "10c8e 10cce 10ccf 10cd0 10cd1 10cd2 10cd3 10cd4 10cd5 10cd6 10cd7 10cd8 10cd9 10cda 10cdb",
  "10c9c 10cdc 10cdd 10cde 10cdf 10ce0 10ce1 10ce2 10ce3 10ce4 10ce5 10ce6 10ce7 10ce8 10ce9",
  "10caa 10cea 10ceb 10cec 10ced 10cee 10cef 10cf0 10cf1 10cf2",
  "10d50 10d70 10d71 10d72 10d73 10d74 10d75 10d76 10d77 10d78 10d79 10d7a 10d7b 10d7c 10d7d",
  "10d5e 10d7e 10d7f 10d80 10d81 10d82 10d83 10d84 10d85",
  "118a0 118c0 118c1 118c2 118c3 118c4 118c5 118c6 118c7 118c8 118c9 118ca 118cb 118cc 118cd",
  "118ae 118ce 118cf 118d0 118d1 118d2 118d3 118d4 118d5 118d6 118d7 118d8 118d9 118da 118db",
  "118bc 118dc 118dd 118de 118df",
  "16e40 16e60 16e61 16e62 16e63 16e64 16e65 16e66 16e67 16e68 16e69 16e6a 16e6b 16e6c 16e6d",
  "16e4e 16e6e 16e6f 16e70 16e71 16e72 16e73 16e74 16e75 16e76 16e77 16e78 16e79 16e7a 16e7b",
  "16e5c 16e7c 16e7d 16e7e 16e7f",
  "16ea0 16ebb 16ebc 16ebd 16ebe 16ebf 16ec0 16ec1 16ec2 16ec3 16ec4 16ec5 16ec6 16ec7 16ec8",
  "16eae 16ec9 16eca 16ecb 16ecc 16ecd 16ece 16ecf 16ed0 16ed1 16ed2 16ed3",
  "1ccd6 61 62 63 64 65 66 67 68 69 6a 6b 6c 6d 6e 6f 70 71 72 73 74 75 76 77 78 79 7a 30 31 32",
  "1ccf3 33 34 35 36 37 38 39",
  "1d400 61 62 63 64 65 66 67 68 69 6a 6b 6c 6d 6e 6f 70 71 72 73 74 75 76 77 78 79 7a 61 62 63",
  "1d41d 64 65 66 67 68 69 6a 6b 6c 6d 6e 6f 70 71 72 73 74 75 76 77 78 79 7a 61 62 63 64 65 66",
  "1d43a 67 68 69 6a 6b 6c 6d 6e 6f 70 71 72 73 74 75 76 77 78 79 7a 61 62 63 64 65 66 67 - 69",
  "1d457 6a 6b 6c 6d 6e 6f 70 71 72 73 74 75 76 77 78 79 7a 61 62 63 64 65 66 67 68 69 6a 6b 6c",
  "1d474 6d 6e 6f 70 71 72 73 74 75 76 77 78 79 7a 61 62 63 64 65 66 67 68 69 6a 6b 6c 6d 6e 6f",
  "1d491 70 71 72 73 74 75 76 77 78 79 7a 61 - 63 64",
  "1d4a2 67",
  "1d4a5 6a 6b",
  "1d4a9 6e 6f 70 71 - 73 74 75 76 77 78 79 7a 61 62 63 64 - 66 - 68 69 6a 6b 6c 6d 6e - 70 71",
  "1d4c7 72 73 74 75 76 77 78 79 7a 61 62 63 64 65 66 67 68 69 6a 6b 6c 6d 6e 6f 70 71 72 73 74",
  "1d4e4 75 76 77 78 79 7a 61 62 63 64 65 66 67 68 69 6a 6b 6c 6d 6e 6f 70 71 72 73 74 75 76 77",
  "1d501 78 79 7a 61 62 - 64 65 66 67",
  "1d50d 6a 6b 6c 6d 6e 6f 70 71 - 73 74 75 76 77 78 79 - 61 62 63 64 65 66 67 68 69 6a 6b 6c",
  "1d52a 6d 6e 6f 70 71 72 73 74 75 76 77 78 79 7a 61 62 - 64 65 66 67 - 69 6a 6b 6c 6d - 6f",
  "1d54a 73 74 75 76 77 78 79 - 61 62 63 64 65 66 67 68 69 6a 6b 6c 6d 6e 6f 70 71 72 73 74 75",
  "1d567 76 77 78 79 7a 61 62 63 64 65 66 67 68 69 6a 6b 6c 6d 6e 6f 70 71 72 73 74 75 76 77 78",
  "1d584 79 7a 61 62 63 64 65 66 67 68 69 6a 6b 6c 6d 6e 6f 70 71 72 73 74 75 76 77 78 79 7a 61",
  "1d5a1 62 63 64 65 66 67 68 69 6a 6b 6c 6d 6e 6f 70 71 72 73 74 75 76 77 78 79 7a 61 62 63 64",
  "1d5be 65 66 67 68 69 6a 6b 6c 6d 6e 6f 70 71 72 73 74 75 76 77 78 79 7a 61 62 63 64 65 66 67",
  "1d5db 68 69 6a 6b 6c 6d 6e 6f 70 71 72 73 74 75 76 77 78 79 7a 61 62 63 64 65 66 67 68 69 6a",
  "1d5f8 6b 6c 6d 6e 6f 70 71 72 73 74 75 76 77 78 79 7a 61 62 63 64 65 66 67 68 69 6a 6b 6c 6d",
  "1d615 6e 6f 70 71 72 73 74 75 76 77 78 79 7a 61 62 63 64 65 66 67 68 69 6a 6b 6c 6d 6e 6f 70",
  "1d632 71 72 73 74 75 76 77 78 79 7a 61 62 63 64 65 66 67 68 69 6a 6b 6c 6d 6e 6f 70 71 72 73",
  "1d64f 74 75 76 77 78 79 7a 61 62 63 64 65 66 67 68 69 6a 6b 6c 6d 6e 6f 70 71 72 73 74 75 76",
  "1d66c 77 78 79 7a 61 62 63 64 65 66 67 68 69 6a 6b 6c 6d 6e 6f 70 71 72 73 74 75 76 77 78 79",
  "1d689 7a 61 62 63 64 65 66 67 68 69 6a 6b 6c 6d 6e 6f 70 71 72 73 74 75 76 77 78 79 7a 131",
  "1d6a5 237",
  "1d6a8 3b1 3b2 3b3 3b4 3b5 3b6 3b7 3b8 3b9 3ba 3bb 3bc 3bd 3be 3bf 3c0 3c1 3b8 3c3 3c4 3c5",
  "1d6bd 3c6 3c7 3c8 3c9 2207 3b1 3b2 3b3 3b4 3b5 3b6 3b7 3b8 3b9 3ba 3bb 3bc 3bd 3be 3bf 3c0",
  "1d6d2 3c1 3c3 3c3 3c4 3c5 3c6 3c7 3c8 3c9 2202 3b5 3b8 3ba 3c6 3c1 3c0 3b1 3b2 3b3 3b4 3b5",
  "1d6e7 3b6 3b7 3b8 3b9 3ba 3bb 3bc 3bd 3be 3bf 3c0 3c1 3b8 3c3 3c4 3c5 3c6 3c7 3c8 3c9 2207",
  "1d6fc 3b1 3b2 3b3 3b4 3b5 3b6 3b7 3b8 3b9 3ba 3bb 3bc 3bd 3be 3bf 3c0 3c1 3c3 3c3 3c4 3c5",
  "1d711 3c6 3c7 3c8 3c9 2202 3b5 3b8 3ba 3c6 3c1 3c0 3b1 3b2 3b3 3b4 3b5 3b6 3b7 3b8 3b9 3ba",
  "1d726 3bb 3bc 3bd 3be 3bf 3c0 3c1 3b8 3c3 3c4 3c5 3c6 3c7 3c8 3c9 2207 3b1 3b2 3b3 3b4 3b5",
  "1d73b 3b6 3b7 3b8 3b9 3ba 3bb 3bc 3bd 3be 3bf 3c0 3c1 3c3 3c3 3c4 3c5 3c6 3c7 3c8 3c9 2202",
  "1d750 3b5 3b8 3ba 3c6 3c1 3c0 3b1 3b2 3b3 3b4 3b5 3b6 3b7 3b8 3b9 3ba 3bb 3bc 3bd 3be 3bf",
  "1d765 3c0 3c1 3b8 3c3 3c4 3c5 3c6 3c7 3c8 3c9 2207 3b1 3b2 3b3 3b4 3b5 3b6 3b7 3b8 3b9 3ba",
  "1d77a 3bb 3bc 3bd 3be 3bf 3c0 3c1 3c3 3c3 3c4 3c5 3c6 3c7 3c8 3c9 2202 3b5 3b8 3ba 3c6 3c1",
  "1d78f 3c0 3b1 3b2 3b3 3b4 3b5 3b6 3b7 3b8 3b9 3ba 3bb 3bc 3bd 3be 3bf 3c0 3c1 3b8 3c3 3c4",
  "1d7a4 3c5 3c6 3c7 3c8 3c9 2207 3b1 3b2 3b3 3b4 3b5 3b6 3b7 3b8 3b9 3ba 3bb 3bc 3bd 3be 3bf",
  "1d7b9 3c0 3c1 3c3 3c3 3c4 3c5 3c6 3c7 3c8 3c9 2202 3b5 3b8 3ba 3c6 3c1 3c0 3dd 3dd",
  "1d7ce 30 31 32 33 34 35 36 37 38 39 30 31 32 33 34 35 36 37 38 39 30 31 32 33 34 35 36 37 38",
  "1d7eb 39 30 31 32 33 34 35 36 37 38 39 30 31 32 33 34 35 36 37 38 39",
  "1e030 430 431 432 433 434 435 436 437 438 43a 43b 43c 43e 43f 440 441 442 443 444 445 446",
  "1e045 447 448 44b 44d 44e a689 4d9 456 458 4e9 4af 4cf 430 431 432 433 434 435 436 437 438",
  "1e05a 43a 43b 43e 43f 441 443 444 445 446 447 448 44a 44b 491 456 455 45f 4ab a651 4b1",
  "1e900 1e922 1e923 1e924 1e925 1e926 1e927 1e928 1e929 1e92a 1e92b 1e92c 1e92d 1e92e 1e92f",
  "1e90e 1e930 1e931 1e932 1e933 1e934 1e935 1e936 1e937 1e938 1e939 1e93a 1e93b 1e93c 1e93d",
  "1e91c 1e93e 1e93f 1e940 1e941 1e942 1e943",
  "1ee00 627 628 62c 62f - 648 632 62d 637 64a 643 644 645 646 633 639 641 635 642 631 634 62a",
  "1ee16 62b 62e 630 636 638 63a 66e 6ba 6a1 66f - 628 62c - 647",
  "1ee27 62d - 64a 643 644 645 646 633 639 641 635 642 - 634 62a 62b 62e - 636 - 63a",
  "1ee42 62c",
  "1ee47 62d - 64a - 644 - 646 633 639 - 635 642 - 634",
  "1ee57 62e - 636 - 63a - 6ba - 66f - 628 62c - 647",
  "1ee67 62d 637 64a 643 - 645 646 633 639 641 635 642 - 634 62a 62b 62e - 636 638 63a 66e",
  "1ee7e 6a1 - 627 628 62c 62f 647 648 632 62d 637 64a - 644 645 646 633 639 641 635 642 631",
  "1ee94 634 62a 62b 62e 630 636 638 63a",
  "1eea1 628 62c 62f - 648 632 62d 637 64a - 644 645 646 633 639 641 635 642 631 634 62a 62b",
  "1eeb7 62e 630 636 638 63a",
  "1f101 30+2c 31+2c 32+2c 33+2c 34+2c 35+2c 36+2c 37+2c 38+2c 39+2c",
  "1f110 28+61+29 28+62+29 28+63+29 28+64+29 28+65+29 28+66+29 28+67+29 28+68+29 28+69+29",
  "1f119 28+6a+29 28+6b+29 28+6c+29 28+6d+29 28+6e+29 28+6f+29 28+70+29 28+71+29 28+72+29",
  "1f122 28+73+29 28+74+29 28+75+29 28+76+29 28+77+29 28+78+29 28+79+29 28+7a+29 3014+73+3015",
  "1f12b 63 72 63+64 77+7a - 61 62 63 64 65 66 67 68 69 6a 6b 6c 6d 6e 6f 70 71 72 73 74 75 76",
  "1f146 77 78 79 7a 68+76 6d+76 73+64 73+73 70+70+76 77+63",
  "1f16a 6d+63 6d+64 6d+72",
  "1f190 64+6a",
  "1f200 307b+304b 30b3+30b3 30b5",
  "1f210 624b 5b57 53cc 30c7 4e8c 591a 89e3 5929 4ea4 6620 7121 6599 524d 5f8c 518d 65b0 521d",
  "1f221 7d42 751f 8ca9 58f0 5439 6f14 6295 6355 4e00 4e09 904a 5de6 4e2d 53f3 6307 8d70 6253",
  "1f232 7981 7a7a 5408 6e80 6709 6708 7533 5272 55b6 914d",
  "1f240 3014+672c+3015 3014+4e09+3015 3014+4e8c+3015 3014+5b89+3015 3014+70b9+3015",
  "1f245 3014+6253+3015 3014+76d7+3015 3014+52dd+3015 3014+6557+3015",
  "1f250 5f97 53ef",
  "1fbf0 30 31 32 33 34 35 36 37 38 39"]

/-- Characters that stand for nothing. -/
def ignored : List Run := runsOf [
  "ad 34f 115f-1160 17b4-17b5 180b-180f 200b 2060-2064 206a-206f 3164 fe00-fe0f feff ffa0",
  "1bca0-1bca3 1d173-1d17a e0100-e01ef"]

/-- Characters that are refused. -/
def refused : List Run := runsOf [
  "80-9f 378-379 380-383 38b 38d 3a2 530 557 58b-58c 590 5c8-5cf 5eb-5ee 5f5-605 61c 6dd 70e-70f",
  "74b-74c 7b2-7bf 7fb-7fc 82e-82f 83f 85c-85d 85f 86b-86f 890-896 8e2 984 98d-98e 991-992 9a9",
  "9b1 9b3-9b5 9ba-9bb 9c5-9c6 9c9-9ca 9cf-9d6 9d8-9db 9de 9e4-9e5 9ff-a00 a04 a0b-a0e a11-a12",
  "a29 a31 a34 a37 a3a-a3b a3d a43-a46 a49-a4a a4e-a50 a52-a58 a5d a5f-a65 a77-a80 a84 a8e a92",
  "aa9 ab1 ab4 aba-abb ac6 aca ace-acf ad1-adf ae4-ae5 af2-af8 b00 b04 b0d-b0e b11-b12 b29 b31",
  "b34 b3a-b3b b45-b46 b49-b4a b4e-b54 b58-b5b b5e b64-b65 b78-b81 b84 b8b-b8d b91 b96-b98 b9b",
  "b9d ba0-ba2 ba5-ba7 bab-bad bba-bbd bc3-bc5 bc9 bce-bcf bd1-bd6 bd8-be5 bfb-bff c0d c11 c29",
  "c3a-c3b c45 c49 c4e-c54 c57 c5b c5e-c5f c64-c65 c70-c76 c8d c91 ca9 cb4 cba-cbb cc5 cc9",
  "cce-cd4 cd7-cdb cdf ce4-ce5 cf0 cf4-cff d0d d11 d45 d49 d50-d53 d64-d65 d80 d84 d97-d99 db2",
  "dbc dbe-dbf dc7-dc9 dcb-dce dd5 dd7 de0-de5 df0-df1 df5-e00 e3b-e3e e5c-e80 e83 e85 e8b ea4",
  "ea6 ebe-ebf ec5 ec7 ecf eda-edb ee0-eff f48 f6d-f70 f98 fbd fcd fdb-fff 10c6 10c8-10cc",
  "10ce-10cf 1249 124e-124f 1257 1259 125e-125f 1289 128e-128f 12b1 12b6-12b7 12bf 12c1 12c6-12c7",
  "12d7 1311 1316-1317 135b-135c 137d-137f 139a-139f 13f6-13f7 13fe-13ff 1680 169d-169f 16f9-16ff",
  "1716-171e 1737-173f 1754-175f 176d 1771 1774-177f 17de-17df 17ea-17ef 17fa-17ff 181a-181f",
  "1879-187f 18ab-18af 18f6-18ff 191f 192c-192f 193c-193f 1941-1943 196e-196f 1975-197f 19ac-19af",
  "19ca-19cf 19db-19dd 1a1c-1a1d 1a5f 1a7d-1a7e 1a8a-1a8f 1a9a-1a9f 1aae-1aaf 1ade-1adf 1aec-1aff",
  "1b4d 1bf4-1bfb 1c38-1c3a 1c4a-1c4c 1c8b-1c8f 1cbb-1cbc 1cc8-1ccf 1cfb-1cff 1f16-1f17 1f1e-1f1f",
  "1f46-1f47 1f4e-1f4f 1f58 1f5a 1f5c 1f5e 1f7e-1f7f 1fb5 1fc5 1fd4-1fd5 1fdc 1ff0-1ff1 1ff5 1fff",
  "200e-200f 2024-2026 2028-202e 2065-2069 2072-2073 208f 209d-209f 20c4-20cf 20f1-20ff 218c-218f",
  "242a-243f 244b-245f 2488-249b 2b74-2b75 2cf4-2cf8 2d26 2d28-2d2c 2d2e-2d2f 2d68-2d6e 2d71-2d7e",
  "2d97-2d9f 2da7 2daf 2db7 2dbf 2dc7 2dcf 2dd7 2ddf 2e5e-2e7f 2e9a 2ef4-2eff 2fd6-2fff 3040",
  "3097-3098 3100-3104 3130 318f 31e6-31ef 321f 33c2 33c7 33d8 a48d-a48f a4c7-a4cf a62c-a63f",
  "a6f8-a6ff a7dd-a7f0 a82d-a82f a83a-a83f a878-a87f a8c6-a8cd a8da-a8df a954-a95e a97d-a97f a9ce",
  "a9da-a9dd a9ff aa37-aa3f aa4e-aa4f aa5a-aa5b aac3-aada aaf7-ab00 ab07-ab08 ab0f-ab10 ab17-ab1f",
  "ab27 ab2f ab6c-ab6f abee-abef abfa-abff d7a4-d7af d7c7-d7ca d7fc-f8ff fa6e-fa6f fada-faff",
  "fb07-fb12 fb18-fb1c fb37 fb3d fb3f fb42 fb45 fdd0-fdef fe12 fe19-fe1f fe30 fe52-fe53 fe67",
  "fe6c-fe6f fe75 fefd-fefe ff00 ffbf-ffc1 ffc8-ffc9 ffd0-ffd1 ffd8-ffd9 ffdd-ffdf ffe7 ffef-ffff",
  "1000c 10027 1003b 1003e 1004e-1004f 1005e-1007f 100fb-100ff 10103-10106 10134-10136 1018f",
  "1019d-1019f 101a1-101cf 101fe-1027f 1029d-1029f 102d1-102df 102fc-102ff 10324-1032c",
  "1034b-1034f 1037b-1037f 1039e 103c4-103c7 103d6-103ff 1049e-1049f 104aa-104af 104d4-104d7",
  "104fc-104ff 10528-1052f 10564-1056e 1057b 1058b 10593 10596 105a2 105b2 105ba 105bd-105bf",
  "105f4-105ff 10737-1073f 10756-1075f 10768-1077f 10786 107b1 107bb-107ff 10806-10807 10809",
  "10836 10839-1083b 1083d-1083e 10856 1089f-108a6 108b0-108df 108f3 108f6-108fa 1091c-1091e",
  "1093a-1093e 1095a-1097f 109b8-109bb 109d0-109d1 10a04 10a07-10a0b 10a14 10a18 10a36-10a37",
  "10a3b-10a3e 10a49-10a4f 10a59-10a5f 10aa0-10abf 10ae7-10aea 10af7-10aff 10b36-10b38",
  "10b56-10b57 10b73-10b77 10b92-10b98 10b9d-10ba8 10bb0-10bff 10c49-10c7f 10cb3-10cbf",
  "10cf3-10cf9 10d28-10d2f 10d3a-10d3f 10d66-10d68 10d86-10d8d 10d90-10e5f 10e7f 10eaa",
  "10eae-10eaf 10eb2-10ec1 10ec8-10ecf 10ed9-10ef9 10f28-10f2f 10f5a-10f6f 10f8a-10faf",
  "10fcc-10fdf 10ff7-10fff 1104e-11051 11076-1107e 110bd 110c3-110cf 110e9-110ef 110fa-110ff",
  "11135 11148-1114f 11177-1117f 111e0 111f5-111ff 11212 11242-1127f 11287 11289 1128e 1129e",
  "112aa-112af 112eb-112ef 112fa-112ff 11304 1130d-1130e 11311-11312 11329 11331 11334 1133a",
  "11345-11346 11349-1134a 1134e-1134f 11351-11356 11358-1135c 11364-11365 1136d-1136f",
  "11375-1137f 1138a 1138c-1138d 1138f 113b6 113c1 113c3-113c4 113c6 113cb 113d6 113d9-113e0",
  "113e3-113ff 1145c 11462-1147f 114c8-114cf 114da-1157f 115b6-115b7 115de-115ff 11645-1164f",
  "1165a-1165f 1166d-1167f 116ba-116bf 116ca-116cf 116e4-116ff 1171b-1171c 1172c-1172f",
  "11747-117ff 1183c-1189f 118f3-118fe 11907-11908 1190a-1190b 11914 11917 11936 11939-1193a",
  "11947-1194f 1195a-1199f 119a8-119a9 119d8-119d9 119e5-119ff 11a48-11a4f 11aa3-11aaf",
  "11af9-11aff 11b0a-11b5f 11b68-11bbf 11be2-11bef 11bfa-11bff 11c09 11c37 11c46-11c4f",
  "11c6d-11c6f 11c90-11c91 11ca8 11cb7-11cff 11d07 11d0a 11d37-11d39 11d3b 11d3e 11d48-11d4f",
  "11d5a-11d5f 11d66 11d69 11d8f 11d92 11d99-11d9f 11daa-11daf 11ddc-11ddf 11dea-11edf",
  "11ef9-11eff 11f11 11f3b-11f3d 11f5b-11faf 11fb1-11fbf 11ff2-11ffe 1239a-123ff 1246f",
  "12475-1247f 12544-1254f 12687-12f8f 12ff3-12fff 13430-1343f 13456-1345f 143fb-143ff",
  "14647-160ff 1613a-167ff 16a39-16a3f 16a5f 16a6a-16a6d 16abf 16aca-16acf 16aee-16aef",
  "16af6-16aff 16b46-16b4f 16b5a 16b62 16b78-16b7c 16b90-16d3f 16d7a-16d7f 16d9e-16d9f",
  "16daa-16e3f 16e9b-16e9f 16eb9-16eba 16ed4-16eff 16f4b-16f4e 16f88-16f8e 16fa0-16fdf",
  "16fe5-16fef 16ff7-16fff 18cd6-18cfe 18d1f-18d7f 18df3-18dff 19192-1919f 191d3-1afef 1aff4",
  "1affc 1afff 1b123-1b131 1b133-1b14f 1b153-1b154 1b156-1b163 1b168-1b16f 1b2fc-1bbff",
  "1bc6b-1bc6f 1bc7d-1bc7f 1bc89-1bc8f 1bc9a-1bc9b 1bca4-1cbff 1ccfd-1ccff 1ceb4-1ceb9",
  "1ced1-1cedf 1cef1-1ceff 1cf2e-1cf2f 1cf47-1cf4f 1cfc4-1cfff 1d0f6-1d0ff 1d127-1d128",
  "1d1eb-1d1ff 1d246-1d2bf 1d2d4-1d2df 1d2f4-1d2ff 1d357-1d35f 1d379-1d3ff 1d455 1d49d",
  "1d4a0-1d4a1 1d4a3-1d4a4 1d4a7-1d4a8 1d4ad 1d4ba 1d4bc 1d4c4 1d506 1d50b-1d50c 1d515 1d51d",
  "1d53a 1d53f 1d545 1d547-1d549 1d551 1d6a6-1d6a7 1d7cc-1d7cd 1da8c-1da9a 1daa0 1dab0-1deff",
  "1df1f-1df24 1df2b-1dfff 1e007 1e019-1e01a 1e022 1e025 1e02b-1e02f 1e06e-1e08e 1e090-1e0ff",
  "1e12d-1e12f 1e13e-1e13f 1e14a-1e14d 1e150-1e28f 1e2af-1e2bf 1e2fa-1e2fe 1e300-1e4cf",
  "1e4fa-1e5cf 1e5fb-1e5fe 1e600-1e6bf 1e6df 1e6f6-1e6fd 1e700-1e7df 1e7e7 1e7ec 1e7ef 1e7ff",
  "1e8c5-1e8c6 1e8d7-1e8ff 1e94c-1e94f 1e95a-1e95d 1e960-1ec70 1ecb5-1ed00 1ed3e-1edff 1ee04",
  "1ee20 1ee23 1ee25-1ee26 1ee28 1ee33 1ee38 1ee3a 1ee3c-1ee41 1ee43-1ee46 1ee48 1ee4a 1ee4c",
  "1ee50 1ee53 1ee55-1ee56 1ee58 1ee5a 1ee5c 1ee5e 1ee60 1ee63 1ee65-1ee66 1ee6b 1ee73 1ee78",
  "1ee7d 1ee7f 1ee8a 1ee9c-1eea0 1eea4 1eeaa 1eebc-1eeef 1eef2-1efff 1f02c-1f02f 1f094-1f09f",
  "1f0af-1f0b0 1f0c0 1f0d0 1f0f6-1f100 1f1ae-1f1e5 1f203-1f20f 1f23c-1f23f 1f249-1f24f",
  "1f252-1f25f 1f266-1f2ff 1f6da-1f6db 1f6ed-1f6ef 1f6fd-1f6ff 1f7da-1f7df 1f7ec-1f7ef",
  "1f7f1-1f7ff 1f80c-1f80f 1f848-1f84f 1f85a-1f85f 1f888-1f88f 1f8ae-1f8af 1f8bc-1f8bf",
  "1f8c2-1f8cf 1f8d9-1f8ff 1fa58-1fa5f 1fa6e-1fa6f 1fa7d-1fa7f 1fac7 1fac9-1facb 1fade",
  "1faec-1faee 1fafb-1faff 1fb93 1fbfb-1ffff 2a6e0-2a6ff 2b81e-2b81f 2ceae-2ceaf 2ebe1-2ebef",
  "2ee5e-2f7ff 2fa1e-2ffff 3134b-3134f 3347a-3cfff 3fc40-e00ff e01f0-10ffff"]

/-- What a character of a name stands for, unless it is refused. -/
def map? (c : Char) : Option (List Char) :=
  match findIn variants c with
  | some cs => some cs
  | none =>
    if inSome ignored c then some []
    else if inSome refused c then none
    else some [c]

/-- Whether the character stands for itself. -/
def isSettled (c : Char) : Bool := map? c = some [c]

end Custody.Domain
