import Spreadsheet.Text.Table

/-!
Case tables of Unicode 14.0: the full lower, upper and title case mappings (special casing
included, the context of a final sigma apart), and the properties Cased and Case_Ignorable.
One-to-one mappings are stored as runs `start,count,delta,stride`: the `count` code points
`start + i · stride` map to themselves plus `delta`. Mappings to several characters are listed one
by one. The tables are written in hexadecimal text and read once.
-/

namespace Spreadsheet.Text

def lowerRuns : Array CaseRun := CaseRun.readAll (
    "41,1a,20,1 c0,17,20,1 d8,7,20,1 100,18,1,2 132,3,1,2 139,8,1,2 14a,17,1,2 178,1,-79,1 179,3,1,2 "
    ++ "181,1,d2,1 182,2,1,2 186,1,ce,1 187,1,1,1 189,2,cd,1 18b,1,1,1 18e,1,4f,1 18f,1,ca,1 190,1,cb,1 "
    ++ "191,1,1,1 193,1,cd,1 194,1,cf,1 196,1,d3,1 197,1,d1,1 198,1,1,1 19c,1,d3,1 19d,1,d5,1 19f,1,d6,1 "
    ++ "1a0,3,1,2 1a6,1,da,1 1a7,1,1,1 1a9,1,da,1 1ac,1,1,1 1ae,1,da,1 1af,1,1,1 1b1,2,d9,1 1b3,2,1,2 "
    ++ "1b7,1,db,1 1b8,1,1,1 1bc,1,1,1 1c4,1,2,1 1c5,1,1,1 1c7,1,2,1 1c8,1,1,1 1ca,1,2,1 1cb,9,1,2 "
    ++ "1de,9,1,2 1f1,1,2,1 1f2,2,1,2 1f6,1,-61,1 1f7,1,-38,1 1f8,14,1,2 220,1,-82,1 222,9,1,2 23a,1,2a2b,1 "
    ++ "23b,1,1,1 23d,1,-a3,1 23e,1,2a28,1 241,1,1,1 243,1,-c3,1 244,1,45,1 245,1,47,1 246,5,1,2 370,2,1,2 "
    ++ "376,1,1,1 37f,1,74,1 386,1,26,1 388,3,25,1 38c,1,40,1 38e,2,3f,1 391,11,20,1 3a3,9,20,1 3cf,1,8,1 "
    ++ "3d8,c,1,2 3f4,1,-3c,1 3f7,1,1,1 3f9,1,-7,1 3fa,1,1,1 3fd,3,-82,1 400,10,50,1 410,20,20,1 460,11,1,2 "
    ++ "48a,1b,1,2 4c0,1,f,1 4c1,7,1,2 4d0,30,1,2 531,26,30,1 10a0,26,1c60,1 10c7,1,1c60,1 10cd,1,1c60,1 "
    ++ "13a0,50,97d0,1 13f0,6,8,1 1c90,2b,-bc0,1 1cbd,3,-bc0,1 1e00,4b,1,2 1e9e,1,-1dbf,1 1ea0,30,1,2 "
    ++ "1f08,8,-8,1 1f18,6,-8,1 1f28,8,-8,1 1f38,8,-8,1 1f48,6,-8,1 1f59,4,-8,2 1f68,8,-8,1 1f88,8,-8,1 "
    ++ "1f98,8,-8,1 1fa8,8,-8,1 1fb8,2,-8,1 1fba,2,-4a,1 1fbc,1,-9,1 1fc8,4,-56,1 1fcc,1,-9,1 1fd8,2,-8,1 "
    ++ "1fda,2,-64,1 1fe8,2,-8,1 1fea,2,-70,1 1fec,1,-7,1 1ff8,2,-80,1 1ffa,2,-7e,1 1ffc,1,-9,1 "
    ++ "2126,1,-1d5d,1 212a,1,-20bf,1 212b,1,-2046,1 2132,1,1c,1 2160,10,10,1 2183,1,1,1 24b6,1a,1a,1 "
    ++ "2c00,30,30,1 2c60,1,1,1 2c62,1,-29f7,1 2c63,1,-ee6,1 2c64,1,-29e7,1 2c67,3,1,2 2c6d,1,-2a1c,1 "
    ++ "2c6e,1,-29fd,1 2c6f,1,-2a1f,1 2c70,1,-2a1e,1 2c72,1,1,1 2c75,1,1,1 2c7e,2,-2a3f,1 2c80,32,1,2 "
    ++ "2ceb,2,1,2 2cf2,1,1,1 a640,17,1,2 a680,e,1,2 a722,7,1,2 a732,1f,1,2 a779,2,1,2 a77d,1,-8a04,1 "
    ++ "a77e,5,1,2 a78b,1,1,1 a78d,1,-a528,1 a790,2,1,2 a796,a,1,2 a7aa,1,-a544,1 a7ab,1,-a54f,1 "
    ++ "a7ac,1,-a54b,1 a7ad,1,-a541,1 a7ae,1,-a544,1 a7b0,1,-a512,1 a7b1,1,-a52a,1 a7b2,1,-a515,1 "
    ++ "a7b3,1,3a0,1 a7b4,8,1,2 a7c4,1,-30,1 a7c5,1,-a543,1 a7c6,1,-8a38,1 a7c7,2,1,2 a7d0,1,1,1 a7d6,2,1,2 "
    ++ "a7f5,1,1,1 ff21,1a,20,1 10400,28,28,1 104b0,24,28,1 10570,b,27,1 1057c,f,27,1 1058c,7,27,1 "
    ++ "10594,2,27,1 10c80,33,40,1 118a0,20,20,1 16e40,20,20,1 1e900,22,22,1")

def lowerMulti : Array (Nat × List Nat) := readMulti (
    "130:69,307")

def upperRuns : Array CaseRun := CaseRun.readAll (
    "61,1a,-20,1 b5,1,2e7,1 e0,17,-20,1 f8,7,-20,1 ff,1,79,1 101,18,-1,2 131,1,-e8,1 133,3,-1,2 "
    ++ "13a,8,-1,2 14b,17,-1,2 17a,3,-1,2 17f,1,-12c,1 180,1,c3,1 183,2,-1,2 188,1,-1,1 18c,1,-1,1 "
    ++ "192,1,-1,1 195,1,61,1 199,1,-1,1 19a,1,a3,1 19e,1,82,1 1a1,3,-1,2 1a8,1,-1,1 1ad,1,-1,1 1b0,1,-1,1 "
    ++ "1b4,2,-1,2 1b9,1,-1,1 1bd,1,-1,1 1bf,1,38,1 1c5,1,-1,1 1c6,1,-2,1 1c8,1,-1,1 1c9,1,-2,1 1cb,1,-1,1 "
    ++ "1cc,1,-2,1 1ce,8,-1,2 1dd,1,-4f,1 1df,9,-1,2 1f2,1,-1,1 1f3,1,-2,1 1f5,1,-1,1 1f9,14,-1,2 "
    ++ "223,9,-1,2 23c,1,-1,1 23f,2,2a3f,1 242,1,-1,1 247,5,-1,2 250,1,2a1f,1 251,1,2a1c,1 252,1,2a1e,1 "
    ++ "253,1,-d2,1 254,1,-ce,1 256,2,-cd,1 259,1,-ca,1 25b,1,-cb,1 25c,1,a54f,1 260,1,-cd,1 261,1,a54b,1 "
    ++ "263,1,-cf,1 265,1,a528,1 266,1,a544,1 268,1,-d1,1 269,1,-d3,1 26a,1,a544,1 26b,1,29f7,1 "
    ++ "26c,1,a541,1 26f,1,-d3,1 271,1,29fd,1 272,1,-d5,1 275,1,-d6,1 27d,1,29e7,1 280,1,-da,1 282,1,a543,1 "
    ++ "283,1,-da,1 287,1,a52a,1 288,1,-da,1 289,1,-45,1 28a,2,-d9,1 28c,1,-47,1 292,1,-db,1 29d,1,a515,1 "
    ++ "29e,1,a512,1 345,1,54,1 371,2,-1,2 377,1,-1,1 37b,3,82,1 3ac,1,-26,1 3ad,3,-25,1 3b1,11,-20,1 "
    ++ "3c2,1,-1f,1 3c3,9,-20,1 3cc,1,-40,1 3cd,2,-3f,1 3d0,1,-3e,1 3d1,1,-39,1 3d5,1,-2f,1 3d6,1,-36,1 "
    ++ "3d7,1,-8,1 3d9,c,-1,2 3f0,1,-56,1 3f1,1,-50,1 3f2,1,7,1 3f3,1,-74,1 3f5,1,-60,1 3f8,1,-1,1 "
    ++ "3fb,1,-1,1 430,20,-20,1 450,10,-50,1 461,11,-1,2 48b,1b,-1,2 4c2,7,-1,2 4cf,1,-f,1 4d1,30,-1,2 "
    ++ "561,26,-30,1 10d0,2b,bc0,1 10fd,3,bc0,1 13f8,6,-8,1 1c80,1,-186e,1 1c81,1,-186d,1 1c82,1,-1864,1 "
    ++ "1c83,2,-1862,1 1c85,1,-1863,1 1c86,1,-185c,1 1c87,1,-1825,1 1c88,1,89c2,1 1d79,1,8a04,1 "
    ++ "1d7d,1,ee6,1 1d8e,1,8a38,1 1e01,4b,-1,2 1e9b,1,-3b,1 1ea1,30,-1,2 1f00,8,8,1 1f10,6,8,1 1f20,8,8,1 "
    ++ "1f30,8,8,1 1f40,6,8,1 1f51,4,8,2 1f60,8,8,1 1f70,2,4a,1 1f72,4,56,1 1f76,2,64,1 1f78,2,80,1 "
    ++ "1f7a,2,70,1 1f7c,2,7e,1 1fb0,2,8,1 1fbe,1,-1c25,1 1fd0,2,8,1 1fe0,2,8,1 1fe5,1,7,1 214e,1,-1c,1 "
    ++ "2170,10,-10,1 2184,1,-1,1 24d0,1a,-1a,1 2c30,30,-30,1 2c61,1,-1,1 2c65,1,-2a2b,1 2c66,1,-2a28,1 "
    ++ "2c68,3,-1,2 2c73,1,-1,1 2c76,1,-1,1 2c81,32,-1,2 2cec,2,-1,2 2cf3,1,-1,1 2d00,26,-1c60,1 "
    ++ "2d27,1,-1c60,1 2d2d,1,-1c60,1 a641,17,-1,2 a681,e,-1,2 a723,7,-1,2 a733,1f,-1,2 a77a,2,-1,2 "
    ++ "a77f,5,-1,2 a78c,1,-1,1 a791,2,-1,2 a794,1,30,1 a797,a,-1,2 a7b5,8,-1,2 a7c8,2,-1,2 a7d1,1,-1,1 "
    ++ "a7d7,2,-1,2 a7f6,1,-1,1 ab53,1,-3a0,1 ab70,50,-97d0,1 ff41,1a,-20,1 10428,28,-28,1 104d8,24,-28,1 "
    ++ "10597,b,-27,1 105a3,f,-27,1 105b3,7,-27,1 105bb,2,-27,1 10cc0,33,-40,1 118c0,20,-20,1 "
    ++ "16e60,20,-20,1 1e922,22,-22,1")

def upperMulti : Array (Nat × List Nat) := readMulti (
    "df:53,53 149:2bc,4e 1f0:4a,30c 390:399,308,301 3b0:3a5,308,301 587:535,552 1e96:48,331 1e97:54,308 "
    ++ "1e98:57,30a 1e99:59,30a 1e9a:41,2be 1f50:3a5,313 1f52:3a5,313,300 1f54:3a5,313,301 1f56:3a5,313,342 "
    ++ "1f80:1f08,399 1f81:1f09,399 1f82:1f0a,399 1f83:1f0b,399 1f84:1f0c,399 1f85:1f0d,399 1f86:1f0e,399 "
    ++ "1f87:1f0f,399 1f88:1f08,399 1f89:1f09,399 1f8a:1f0a,399 1f8b:1f0b,399 1f8c:1f0c,399 1f8d:1f0d,399 "
    ++ "1f8e:1f0e,399 1f8f:1f0f,399 1f90:1f28,399 1f91:1f29,399 1f92:1f2a,399 1f93:1f2b,399 1f94:1f2c,399 "
    ++ "1f95:1f2d,399 1f96:1f2e,399 1f97:1f2f,399 1f98:1f28,399 1f99:1f29,399 1f9a:1f2a,399 1f9b:1f2b,399 "
    ++ "1f9c:1f2c,399 1f9d:1f2d,399 1f9e:1f2e,399 1f9f:1f2f,399 1fa0:1f68,399 1fa1:1f69,399 1fa2:1f6a,399 "
    ++ "1fa3:1f6b,399 1fa4:1f6c,399 1fa5:1f6d,399 1fa6:1f6e,399 1fa7:1f6f,399 1fa8:1f68,399 1fa9:1f69,399 "
    ++ "1faa:1f6a,399 1fab:1f6b,399 1fac:1f6c,399 1fad:1f6d,399 1fae:1f6e,399 1faf:1f6f,399 1fb2:1fba,399 "
    ++ "1fb3:391,399 1fb4:386,399 1fb6:391,342 1fb7:391,342,399 1fbc:391,399 1fc2:1fca,399 1fc3:397,399 "
    ++ "1fc4:389,399 1fc6:397,342 1fc7:397,342,399 1fcc:397,399 1fd2:399,308,300 1fd3:399,308,301 "
    ++ "1fd6:399,342 1fd7:399,308,342 1fe2:3a5,308,300 1fe3:3a5,308,301 1fe4:3a1,313 1fe6:3a5,342 "
    ++ "1fe7:3a5,308,342 1ff2:1ffa,399 1ff3:3a9,399 1ff4:38f,399 1ff6:3a9,342 1ff7:3a9,342,399 1ffc:3a9,399 "
    ++ "fb00:46,46 fb01:46,49 fb02:46,4c fb03:46,46,49 fb04:46,46,4c fb05:53,54 fb06:53,54 fb13:544,546 "
    ++ "fb14:544,535 fb15:544,53b fb16:54e,546 fb17:544,53d")

def titleRuns : Array CaseRun := CaseRun.readAll (
    "61,1a,-20,1 b5,1,2e7,1 e0,17,-20,1 f8,7,-20,1 ff,1,79,1 101,18,-1,2 131,1,-e8,1 133,3,-1,2 "
    ++ "13a,8,-1,2 14b,17,-1,2 17a,3,-1,2 17f,1,-12c,1 180,1,c3,1 183,2,-1,2 188,1,-1,1 18c,1,-1,1 "
    ++ "192,1,-1,1 195,1,61,1 199,1,-1,1 19a,1,a3,1 19e,1,82,1 1a1,3,-1,2 1a8,1,-1,1 1ad,1,-1,1 1b0,1,-1,1 "
    ++ "1b4,2,-1,2 1b9,1,-1,1 1bd,1,-1,1 1bf,1,38,1 1c4,1,1,1 1c6,1,-1,1 1c7,1,1,1 1c9,1,-1,1 1ca,1,1,1 "
    ++ "1cc,9,-1,2 1dd,1,-4f,1 1df,9,-1,2 1f1,1,1,1 1f3,2,-1,2 1f9,14,-1,2 223,9,-1,2 23c,1,-1,1 "
    ++ "23f,2,2a3f,1 242,1,-1,1 247,5,-1,2 250,1,2a1f,1 251,1,2a1c,1 252,1,2a1e,1 253,1,-d2,1 254,1,-ce,1 "
    ++ "256,2,-cd,1 259,1,-ca,1 25b,1,-cb,1 25c,1,a54f,1 260,1,-cd,1 261,1,a54b,1 263,1,-cf,1 265,1,a528,1 "
    ++ "266,1,a544,1 268,1,-d1,1 269,1,-d3,1 26a,1,a544,1 26b,1,29f7,1 26c,1,a541,1 26f,1,-d3,1 "
    ++ "271,1,29fd,1 272,1,-d5,1 275,1,-d6,1 27d,1,29e7,1 280,1,-da,1 282,1,a543,1 283,1,-da,1 287,1,a52a,1 "
    ++ "288,1,-da,1 289,1,-45,1 28a,2,-d9,1 28c,1,-47,1 292,1,-db,1 29d,1,a515,1 29e,1,a512,1 345,1,54,1 "
    ++ "371,2,-1,2 377,1,-1,1 37b,3,82,1 3ac,1,-26,1 3ad,3,-25,1 3b1,11,-20,1 3c2,1,-1f,1 3c3,9,-20,1 "
    ++ "3cc,1,-40,1 3cd,2,-3f,1 3d0,1,-3e,1 3d1,1,-39,1 3d5,1,-2f,1 3d6,1,-36,1 3d7,1,-8,1 3d9,c,-1,2 "
    ++ "3f0,1,-56,1 3f1,1,-50,1 3f2,1,7,1 3f3,1,-74,1 3f5,1,-60,1 3f8,1,-1,1 3fb,1,-1,1 430,20,-20,1 "
    ++ "450,10,-50,1 461,11,-1,2 48b,1b,-1,2 4c2,7,-1,2 4cf,1,-f,1 4d1,30,-1,2 561,26,-30,1 13f8,6,-8,1 "
    ++ "1c80,1,-186e,1 1c81,1,-186d,1 1c82,1,-1864,1 1c83,2,-1862,1 1c85,1,-1863,1 1c86,1,-185c,1 "
    ++ "1c87,1,-1825,1 1c88,1,89c2,1 1d79,1,8a04,1 1d7d,1,ee6,1 1d8e,1,8a38,1 1e01,4b,-1,2 1e9b,1,-3b,1 "
    ++ "1ea1,30,-1,2 1f00,8,8,1 1f10,6,8,1 1f20,8,8,1 1f30,8,8,1 1f40,6,8,1 1f51,4,8,2 1f60,8,8,1 "
    ++ "1f70,2,4a,1 1f72,4,56,1 1f76,2,64,1 1f78,2,80,1 1f7a,2,70,1 1f7c,2,7e,1 1f80,8,8,1 1f90,8,8,1 "
    ++ "1fa0,8,8,1 1fb0,2,8,1 1fb3,1,9,1 1fbe,1,-1c25,1 1fc3,1,9,1 1fd0,2,8,1 1fe0,2,8,1 1fe5,1,7,1 "
    ++ "1ff3,1,9,1 214e,1,-1c,1 2170,10,-10,1 2184,1,-1,1 24d0,1a,-1a,1 2c30,30,-30,1 2c61,1,-1,1 "
    ++ "2c65,1,-2a2b,1 2c66,1,-2a28,1 2c68,3,-1,2 2c73,1,-1,1 2c76,1,-1,1 2c81,32,-1,2 2cec,2,-1,2 "
    ++ "2cf3,1,-1,1 2d00,26,-1c60,1 2d27,1,-1c60,1 2d2d,1,-1c60,1 a641,17,-1,2 a681,e,-1,2 a723,7,-1,2 "
    ++ "a733,1f,-1,2 a77a,2,-1,2 a77f,5,-1,2 a78c,1,-1,1 a791,2,-1,2 a794,1,30,1 a797,a,-1,2 a7b5,8,-1,2 "
    ++ "a7c8,2,-1,2 a7d1,1,-1,1 a7d7,2,-1,2 a7f6,1,-1,1 ab53,1,-3a0,1 ab70,50,-97d0,1 ff41,1a,-20,1 "
    ++ "10428,28,-28,1 104d8,24,-28,1 10597,b,-27,1 105a3,f,-27,1 105b3,7,-27,1 105bb,2,-27,1 "
    ++ "10cc0,33,-40,1 118c0,20,-20,1 16e60,20,-20,1 1e922,22,-22,1")

def titleMulti : Array (Nat × List Nat) := readMulti (
    "df:53,73 149:2bc,4e 1f0:4a,30c 390:399,308,301 3b0:3a5,308,301 587:535,582 1e96:48,331 1e97:54,308 "
    ++ "1e98:57,30a 1e99:59,30a 1e9a:41,2be 1f50:3a5,313 1f52:3a5,313,300 1f54:3a5,313,301 1f56:3a5,313,342 "
    ++ "1fb2:1fba,345 1fb4:386,345 1fb6:391,342 1fb7:391,342,345 1fc2:1fca,345 1fc4:389,345 1fc6:397,342 "
    ++ "1fc7:397,342,345 1fd2:399,308,300 1fd3:399,308,301 1fd6:399,342 1fd7:399,308,342 1fe2:3a5,308,300 "
    ++ "1fe3:3a5,308,301 1fe4:3a1,313 1fe6:3a5,342 1fe7:3a5,308,342 1ff2:1ffa,345 1ff4:38f,345 1ff6:3a9,342 "
    ++ "1ff7:3a9,342,345 fb00:46,66 fb01:46,69 fb02:46,6c fb03:46,66,69 fb04:46,66,6c fb05:53,74 fb06:53,74 "
    ++ "fb13:544,576 fb14:544,565 fb15:544,56b fb16:54e,576 fb17:544,56d")

def casedRanges : Array (Nat × Nat) := readRanges (
    "41-5a 61-7a aa-aa b5-b5 ba-ba c0-d6 d8-f6 f8-1ba 1bc-1bf 1c4-293 295-2b8 2c0-2c1 2e0-2e4 345-345 "
    ++ "370-373 376-377 37a-37d 37f-37f 386-386 388-38a 38c-38c 38e-3a1 3a3-3f5 3f7-481 48a-52f 531-556 "
    ++ "560-588 10a0-10c5 10c7-10c7 10cd-10cd 10d0-10fa 10fd-10ff 13a0-13f5 13f8-13fd 1c80-1c88 1c90-1cba "
    ++ "1cbd-1cbf 1d00-1dbf 1e00-1f15 1f18-1f1d 1f20-1f45 1f48-1f4d 1f50-1f57 1f59-1f59 1f5b-1f5b 1f5d-1f5d "
    ++ "1f5f-1f7d 1f80-1fb4 1fb6-1fbc 1fbe-1fbe 1fc2-1fc4 1fc6-1fcc 1fd0-1fd3 1fd6-1fdb 1fe0-1fec 1ff2-1ff4 "
    ++ "1ff6-1ffc 2071-2071 207f-207f 2090-209c 2102-2102 2107-2107 210a-2113 2115-2115 2119-211d 2124-2124 "
    ++ "2126-2126 2128-2128 212a-212d 212f-2134 2139-2139 213c-213f 2145-2149 214e-214e 2160-217f 2183-2184 "
    ++ "24b6-24e9 2c00-2ce4 2ceb-2cee 2cf2-2cf3 2d00-2d25 2d27-2d27 2d2d-2d2d a640-a66d a680-a69d a722-a787 "
    ++ "a78b-a78e a790-a7ca a7d0-a7d1 a7d3-a7d3 a7d5-a7d9 a7f5-a7f6 a7f8-a7fa ab30-ab5a ab5c-ab68 ab70-abbf "
    ++ "fb00-fb06 fb13-fb17 ff21-ff3a ff41-ff5a 10400-1044f 104b0-104d3 104d8-104fb 10570-1057a 1057c-1058a "
    ++ "1058c-10592 10594-10595 10597-105a1 105a3-105b1 105b3-105b9 105bb-105bc 10780-10780 10783-10785 "
    ++ "10787-107b0 107b2-107ba 10c80-10cb2 10cc0-10cf2 118a0-118df 16e40-16e7f 1d400-1d454 1d456-1d49c "
    ++ "1d49e-1d49f 1d4a2-1d4a2 1d4a5-1d4a6 1d4a9-1d4ac 1d4ae-1d4b9 1d4bb-1d4bb 1d4bd-1d4c3 1d4c5-1d505 "
    ++ "1d507-1d50a 1d50d-1d514 1d516-1d51c 1d51e-1d539 1d53b-1d53e 1d540-1d544 1d546-1d546 1d54a-1d550 "
    ++ "1d552-1d6a5 1d6a8-1d6c0 1d6c2-1d6da 1d6dc-1d6fa 1d6fc-1d714 1d716-1d734 1d736-1d74e 1d750-1d76e "
    ++ "1d770-1d788 1d78a-1d7a8 1d7aa-1d7c2 1d7c4-1d7cb 1df00-1df09 1df0b-1df1e 1e900-1e943 1f130-1f149 "
    ++ "1f150-1f169 1f170-1f189")

def caseIgnorableRanges : Array (Nat × Nat) := readRanges (
    "27-27 2e-2e 3a-3a 5e-5e 60-60 a8-a8 ad-ad af-af b4-b4 b7-b8 2b0-36f 374-375 37a-37a 384-385 387-387 "
    ++ "483-489 559-559 55f-55f 591-5bd 5bf-5bf 5c1-5c2 5c4-5c5 5c7-5c7 5f4-5f4 600-605 610-61a 61c-61c "
    ++ "640-640 64b-65f 670-670 6d6-6dd 6df-6e8 6ea-6ed 70f-70f 711-711 730-74a 7a6-7b0 7eb-7f5 7fa-7fa "
    ++ "7fd-7fd 816-82d 859-85b 888-888 890-891 898-89f 8c9-902 93a-93a 93c-93c 941-948 94d-94d 951-957 "
    ++ "962-963 971-971 981-981 9bc-9bc 9c1-9c4 9cd-9cd 9e2-9e3 9fe-9fe a01-a02 a3c-a3c a41-a42 a47-a48 "
    ++ "a4b-a4d a51-a51 a70-a71 a75-a75 a81-a82 abc-abc ac1-ac5 ac7-ac8 acd-acd ae2-ae3 afa-aff b01-b01 "
    ++ "b3c-b3c b3f-b3f b41-b44 b4d-b4d b55-b56 b62-b63 b82-b82 bc0-bc0 bcd-bcd c00-c00 c04-c04 c3c-c3c "
    ++ "c3e-c40 c46-c48 c4a-c4d c55-c56 c62-c63 c81-c81 cbc-cbc cbf-cbf cc6-cc6 ccc-ccd ce2-ce3 d00-d01 "
    ++ "d3b-d3c d41-d44 d4d-d4d d62-d63 d81-d81 dca-dca dd2-dd4 dd6-dd6 e31-e31 e34-e3a e46-e4e eb1-eb1 "
    ++ "eb4-ebc ec6-ec6 ec8-ecd f18-f19 f35-f35 f37-f37 f39-f39 f71-f7e f80-f84 f86-f87 f8d-f97 f99-fbc "
    ++ "fc6-fc6 102d-1030 1032-1037 1039-103a 103d-103e 1058-1059 105e-1060 1071-1074 1082-1082 1085-1086 "
    ++ "108d-108d 109d-109d 10fc-10fc 135d-135f 1712-1714 1732-1733 1752-1753 1772-1773 17b4-17b5 17b7-17bd "
    ++ "17c6-17c6 17c9-17d3 17d7-17d7 17dd-17dd 180b-180f 1843-1843 1885-1886 18a9-18a9 1920-1922 1927-1928 "
    ++ "1932-1932 1939-193b 1a17-1a18 1a1b-1a1b 1a56-1a56 1a58-1a5e 1a60-1a60 1a62-1a62 1a65-1a6c 1a73-1a7c "
    ++ "1a7f-1a7f 1aa7-1aa7 1ab0-1ace 1b00-1b03 1b34-1b34 1b36-1b3a 1b3c-1b3c 1b42-1b42 1b6b-1b73 1b80-1b81 "
    ++ "1ba2-1ba5 1ba8-1ba9 1bab-1bad 1be6-1be6 1be8-1be9 1bed-1bed 1bef-1bf1 1c2c-1c33 1c36-1c37 1c78-1c7d "
    ++ "1cd0-1cd2 1cd4-1ce0 1ce2-1ce8 1ced-1ced 1cf4-1cf4 1cf8-1cf9 1d2c-1d6a 1d78-1d78 1d9b-1dff 1fbd-1fbd "
    ++ "1fbf-1fc1 1fcd-1fcf 1fdd-1fdf 1fed-1fef 1ffd-1ffe 200b-200f 2018-2019 2024-2024 2027-2027 202a-202e "
    ++ "2060-2064 2066-206f 2071-2071 207f-207f 2090-209c 20d0-20f0 2c7c-2c7d 2cef-2cf1 2d6f-2d6f 2d7f-2d7f "
    ++ "2de0-2dff 2e2f-2e2f 3005-3005 302a-302d 3031-3035 303b-303b 3099-309e 30fc-30fe a015-a015 a4f8-a4fd "
    ++ "a60c-a60c a66f-a672 a674-a67d a67f-a67f a69c-a69f a6f0-a6f1 a700-a721 a770-a770 a788-a78a a7f2-a7f4 "
    ++ "a7f8-a7f9 a802-a802 a806-a806 a80b-a80b a825-a826 a82c-a82c a8c4-a8c5 a8e0-a8f1 a8ff-a8ff a926-a92d "
    ++ "a947-a951 a980-a982 a9b3-a9b3 a9b6-a9b9 a9bc-a9bd a9cf-a9cf a9e5-a9e6 aa29-aa2e aa31-aa32 aa35-aa36 "
    ++ "aa43-aa43 aa4c-aa4c aa70-aa70 aa7c-aa7c aab0-aab0 aab2-aab4 aab7-aab8 aabe-aabf aac1-aac1 aadd-aadd "
    ++ "aaec-aaed aaf3-aaf4 aaf6-aaf6 ab5b-ab5f ab69-ab6b abe5-abe5 abe8-abe8 abed-abed fb1e-fb1e fbb2-fbc2 "
    ++ "fe00-fe0f fe13-fe13 fe20-fe2f fe52-fe52 fe55-fe55 feff-feff ff07-ff07 ff0e-ff0e ff1a-ff1a ff3e-ff3e "
    ++ "ff40-ff40 ff70-ff70 ff9e-ff9f ffe3-ffe3 fff9-fffb 101fd-101fd 102e0-102e0 10376-1037a 10780-10785 "
    ++ "10787-107b0 107b2-107ba 10a01-10a03 10a05-10a06 10a0c-10a0f 10a38-10a3a 10a3f-10a3f 10ae5-10ae6 "
    ++ "10d24-10d27 10eab-10eac 10f46-10f50 10f82-10f85 11001-11001 11038-11046 11070-11070 11073-11074 "
    ++ "1107f-11081 110b3-110b6 110b9-110ba 110bd-110bd 110c2-110c2 110cd-110cd 11100-11102 11127-1112b "
    ++ "1112d-11134 11173-11173 11180-11181 111b6-111be 111c9-111cc 111cf-111cf 1122f-11231 11234-11234 "
    ++ "11236-11237 1123e-1123e 112df-112df 112e3-112ea 11300-11301 1133b-1133c 11340-11340 11366-1136c "
    ++ "11370-11374 11438-1143f 11442-11444 11446-11446 1145e-1145e 114b3-114b8 114ba-114ba 114bf-114c0 "
    ++ "114c2-114c3 115b2-115b5 115bc-115bd 115bf-115c0 115dc-115dd 11633-1163a 1163d-1163d 1163f-11640 "
    ++ "116ab-116ab 116ad-116ad 116b0-116b5 116b7-116b7 1171d-1171f 11722-11725 11727-1172b 1182f-11837 "
    ++ "11839-1183a 1193b-1193c 1193e-1193e 11943-11943 119d4-119d7 119da-119db 119e0-119e0 11a01-11a0a "
    ++ "11a33-11a38 11a3b-11a3e 11a47-11a47 11a51-11a56 11a59-11a5b 11a8a-11a96 11a98-11a99 11c30-11c36 "
    ++ "11c38-11c3d 11c3f-11c3f 11c92-11ca7 11caa-11cb0 11cb2-11cb3 11cb5-11cb6 11d31-11d36 11d3a-11d3a "
    ++ "11d3c-11d3d 11d3f-11d45 11d47-11d47 11d90-11d91 11d95-11d95 11d97-11d97 11ef3-11ef4 13430-13438 "
    ++ "16af0-16af4 16b30-16b36 16b40-16b43 16f4f-16f4f 16f8f-16f9f 16fe0-16fe1 16fe3-16fe4 1aff0-1aff3 "
    ++ "1aff5-1affb 1affd-1affe 1bc9d-1bc9e 1bca0-1bca3 1cf00-1cf2d 1cf30-1cf46 1d167-1d169 1d173-1d182 "
    ++ "1d185-1d18b 1d1aa-1d1ad 1d242-1d244 1da00-1da36 1da3b-1da6c 1da75-1da75 1da84-1da84 1da9b-1da9f "
    ++ "1daa1-1daaf 1e000-1e006 1e008-1e018 1e01b-1e021 1e023-1e024 1e026-1e02a 1e130-1e13d 1e2ae-1e2ae "
    ++ "1e2ec-1e2ef 1e8d0-1e8d6 1e944-1e94b 1f3fb-1f3ff e0001-e0001 e0020-e007f e0100-e01ef")

end Spreadsheet.Text
