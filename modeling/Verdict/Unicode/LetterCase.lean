import Verdict.Unicode.Edition

/-! Case of scalar values: which of them change with case, and which differ by case alone. -/
namespace Verdict
namespace LetterCase

def lowered : ScalarSet := .ofText
  "41-5a c0-d6 d8-de 100-136/2 139-147/2 14a-176/2 178-179 17b 17d 181-182 184 186-187 189-18b
  18e-191 193-194 196-198 19c-19d 19f-1a0 1a2 1a4 1a6-1a7 1a9 1ac 1ae-1af 1b1-1b3 1b5 1b7-1b8 1bc
  1c4-1c5 1c7-1c8 1ca-1cb 1cd-1db/2 1de-1ee/2 1f1-1f2 1f4 1f6-1f8 1fa-232/2 23a-23b 23d-23e 241
  243-246 248-24e/2 370 372 376 37f 386 388-38a 38c 38e-38f 391-3a1 3a3-3ab 3cf 3d8-3ee/2 3f4 3f7
  3f9-3fa 3fd-42f 460-480/2 48a-4be/2 4c0-4c1 4c3-4cd/2 4d0-52e/2 531-556 10a0-10c5 10c7 10cd
  13a0-13f5 1c89 1c90-1cba 1cbd-1cbf 1e00-1e94/2 1e9e-1efe/2 1f08-1f0f 1f18-1f1d 1f28-1f2f
  1f38-1f3f 1f48-1f4d 1f59-1f5f/2 1f68-1f6f 1f88-1f8f 1f98-1f9f 1fa8-1faf 1fb8-1fbc 1fc8-1fcc
  1fd8-1fdb 1fe8-1fec 1ff8-1ffc 2126 212a-212b 2132 2160-216f 2183 24b6-24cf 2c00-2c2f 2c60
  2c62-2c64 2c67-2c6b/2 2c6d-2c70 2c72 2c75 2c7e-2c80 2c82-2ce2/2 2ceb 2ced 2cf2 a640-a66c/2
  a680-a69a/2 a722-a72e/2 a732-a76e/2 a779 a77b a77d-a77e a780-a786/2 a78b a78d a790 a792
  a796-a7a8/2 a7aa-a7ae a7b0-a7b4 a7b6-a7c2/2 a7c4-a7c7 a7c9 a7cb-a7cc a7ce-a7dc/2 a7f5 ff21-ff3a
  10400-10427 104b0-104d3 10570-1057a 1057c-1058a 1058c-10592 10594-10595 10c80-10cb2 10d50-10d65
  118a0-118bf 16e40-16e5f 16ea0-16eb8 1e900-1e921"

def raised : ScalarSet := .ofText
  "61-7a b5 df-f6 f8-ff 101-137/2 13a-146/2 148-149 14b-177/2 17a 17c 17e-180 183 185 188 18c 192
  195 199-19b 19e 1a1-1a5/2 1a8 1ad 1b0 1b4 1b6 1b9 1bd 1bf 1c5-1c6 1c8-1c9 1cb-1cc 1ce-1da/2
  1dc-1dd 1df-1ed/2 1ef-1f0 1f2-1f3 1f5 1f9-21f/2 223-233/2 23c 23f-240 242 247-24d/2 24f-254
  256-257 259 25b-25c 260-261 263-266 268-26c 26f 271-272 275 27d 280 282-283 287-28c 292 29d-29e
  345 371 373 377 37b-37d 390 3ac-3ce 3d0-3d1 3d5-3d7 3d9-3ed/2 3ef-3f3 3f5 3f8 3fb 430-45f
  461-481/2 48b-4bf/2 4c2-4cc/2 4ce-4cf 4d1-52f/2 561-587 10d0-10fa 10fd-10ff 13f8-13fd 1c80-1c88
  1c8a 1d79 1d7d 1d8e 1e01-1e93/2 1e95-1e9b 1ea1-1efd/2 1eff-1f07 1f10-1f15 1f20-1f27 1f30-1f37
  1f40-1f45 1f50-1f57 1f60-1f67 1f70-1f7d 1f80-1fb4 1fb6-1fb7 1fbc 1fbe 1fc2-1fc4 1fc6-1fc7 1fcc
  1fd0-1fd3 1fd6-1fd7 1fe0-1fe7 1ff2-1ff4 1ff6-1ff7 1ffc 214e 2170-217f 2184 24d0-24e9 2c30-2c5f
  2c61 2c65-2c66 2c68-2c6c/2 2c73 2c76 2c81-2ce3/2 2cec 2cee 2cf3 2d00-2d25 2d27 2d2d a641-a66d/2
  a681-a69b/2 a723-a72f/2 a733-a76f/2 a77a a77c a77f-a787/2 a78c a791 a793-a794 a797-a7a9/2
  a7b5-a7c3/2 a7c8 a7ca a7cd-a7db/2 a7f6 ab53 ab70-abbf fb00-fb06 fb13-fb17 ff41-ff5a 10428-1044f
  104d8-104fb 10597-105a1 105a3-105b1 105b3-105b9 105bb-105bc 10cc0-10cf2 10d70-10d85 118c0-118df
  16e60-16e7f 16ebb-16ed3 1e922-1e943"

/-- Simple case folding: the scalar values that are not the least among those they
differ from by case alone, by their distance from the least. -/
def folds : List (Nat × ScalarSet) := [
  (32, .ofText
    "61-7a e0-f6 f8-fe 3b1-3b8 3ba-3bb 3bd-3c1 3c3-3cb 430-44f ff41-ff5a 10d70-10d85 118c0-118df
    16e60-16e7f"),
  (1, .ofText
    "101-12f/2 133-137/2 13a-148/2 14b-177/2 17a-17e/2 183 185 188 18c 192 199 1a1-1a5/2 1a8 1ad
    1b0 1b4 1b6 1b9 1bd 1c5 1c8 1cb 1ce-1dc/2 1df-1ef/2 1f2 1f5 1f9-21f/2 223-233/2 23c 242
    247-24f/2 371 373 377 3d9-3ef/2 3f8 3fb 461-481/2 48b-4bf/2 4c2-4ce/2 4d1-52f/2 1c8a
    1e01-1e95/2 1ea1-1eff/2 2184 2c61 2c68-2c6c/2 2c73 2c76 2c81-2ce3/2 2cec 2cee 2cf3 a641-a649/2
    a64d-a66d/2 a681-a69b/2 a723-a72f/2 a733-a76f/2 a77a a77c a77f-a787/2 a78c a791 a793
    a797-a7a9/2 a7b5-a7c3/2 a7c8 a7ca a7cd-a7db/2 a7f6 fb06"),
  (121, .ofText "178"), (300, .ofText "17f"), (2, .ofText "1c6 1c9 1cc 1f3"),
  (79, .ofText "1dd"), (97, .ofText "1f6"), (56, .ofText "1f7"), (130, .ofText "220 3fd-3ff"),
  (163, .ofText "23d"), (195, .ofText "243"), (210, .ofText "253"), (206, .ofText "254"),
  (205, .ofText "256-257 260"), (202, .ofText "259"), (203, .ofText "25b"), (207, .ofText "263"),
  (209, .ofText "268"), (211, .ofText "269 26f"), (213, .ofText "272"), (214, .ofText "275"),
  (218, .ofText "280 283 288"), (69, .ofText "289"), (217, .ofText "28a-28b"),
  (71, .ofText "28c"), (219, .ofText "292"), (84, .ofText "399"), (743, .ofText "39c"),
  (38, .ofText "3ac"), (37, .ofText "3ad-3af"), (116, .ofText "3b9 3f3"), (775, .ofText "3bc"),
  (31, .ofText "3c2"), (64, .ofText "3cc 10cc0-10cf2"), (63, .ofText "3cd-3ce"),
  (62, .ofText "3d0"), (57, .ofText "3d1"), (47, .ofText "3d5"), (54, .ofText "3d6"),
  (8, .ofText
    "3d7 13f8-13fd 1f08-1f0f 1f18-1f1d 1f28-1f2f 1f38-1f3f 1f48-1f4d 1f59-1f5f/2 1f68-1f6f
    1f88-1f8f 1f98-1f9f 1fa8-1faf 1fb8-1fb9 1fd8-1fd9 1fe8-1fe9"),
  (86, .ofText "3f0 1fc8-1fcb"), (80, .ofText "3f1 450-45f"), (92, .ofText "3f4"),
  (96, .ofText "3f5"), (7, .ofText "3f9 1fec"), (15, .ofText "4cf"),
  (48, .ofText "561-586 2c30-2c5f a7c4"), (6254, .ofText "1c80"), (6253, .ofText "1c81"),
  (6244, .ofText "1c82"), (6242, .ofText "1c83-1c84"), (6243, .ofText "1c85"),
  (6236, .ofText "1c86"), (6181, .ofText "1c87"), (3008, .ofText "1c90-1cba 1cbd-1cbf"),
  (59, .ofText "1e9b"), (7615, .ofText "1e9e"), (74, .ofText "1fba-1fbb"),
  (9, .ofText "1fbc 1fcc 1ffc"), (7289, .ofText "1fbe"), (7235, .ofText "1fd3"),
  (100, .ofText "1fda-1fdb"), (7219, .ofText "1fe3"), (112, .ofText "1fea-1feb"),
  (128, .ofText "1ff8-1ff9"), (126, .ofText "1ffa-1ffb"), (7549, .ofText "2126"),
  (8415, .ofText "212a"), (8294, .ofText "212b"), (28, .ofText "214e"),
  (16, .ofText "2170-217f"), (26, .ofText "24d0-24e9"), (10743, .ofText "2c62"),
  (3814, .ofText "2c63"), (10727, .ofText "2c64"), (10795, .ofText "2c65"),
  (10792, .ofText "2c66"), (10780, .ofText "2c6d"), (10749, .ofText "2c6e"),
  (10783, .ofText "2c6f"), (10782, .ofText "2c70"), (10815, .ofText "2c7e-2c7f"),
  (7264, .ofText "2d00-2d25 2d27 2d2d"), (35266, .ofText "a64a"), (35267, .ofText "a64b"),
  (35332, .ofText "a77d"), (42280, .ofText "a78d"), (42308, .ofText "a7aa a7ae"),
  (42319, .ofText "a7ab"), (42315, .ofText "a7ac"), (42305, .ofText "a7ad"),
  (42258, .ofText "a7b0"), (42282, .ofText "a7b1"), (42261, .ofText "a7b2"),
  (42307, .ofText "a7c5"), (35384, .ofText "a7c6"), (42343, .ofText "a7cb"),
  (42561, .ofText "a7dc"), (928, .ofText "ab53"), (38864, .ofText "ab70-abbf"),
  (40, .ofText "10428-1044f 104d8-104fb"),
  (39, .ofText "10597-105a1 105a3-105b1 105b3-105b9 105bb-105bc"), (27, .ofText "16ebb-16ed3"),
  (34, .ofText "1e922-1e943")]

def isLowerText (s : List Char) : Bool := !s.any lowered.contains

def isUpperText (s : List Char) : Bool := !s.any raised.contains

/-- The folds that an edition knows: both the value and the least one are assigned. -/
def foldsIn (e : Edition) : List (Nat × ScalarSet) :=
  folds.map fun f => (f.1, (e.restrict ((e.restrict f.2).shiftedDown f.1)).shiftedUp f.1)

def patternFolds : List (Nat × ScalarSet) := foldsIn .v16

/-- The set with all values that differ by case alone from one of its members: first
the least of each, then those above the least. -/
def close (s : ScalarSet) : ScalarSet :=
  let least := patternFolds.foldl (fun t f => t.union ((s.inter f.2).shiftedDown f.1)) s
  patternFolds.foldl
    (fun t f => t.union ((least.inter (f.2.shiftedDown f.1)).shiftedUp f.1)) least

end LetterCase
end Verdict
