import Verdict.Unicode.CombiningClass

/-! Canonical composition: the one spelling that texts share which differ only in how
letters and their marks are put together. -/
namespace Verdict
namespace Composition

def written : List (Nat × String) := [
  (0x300,
    "41+c0 45+c8 49+cc 4e+1f8 4f+d2 55+d9 57+1e80 59+1ef2 61+e0 65+e8 69+ec 6e+1f9 6f+f2 75+f9
    77+1e81 79+1ef3 a8+1fed c2+1ea6 ca+1ec0 d4+1ed2 dc+1db e2+1ea7 ea+1ec1 f4+1ed3 fc+1dc 102+1eb0
    103+1eb1 112+1e14 113+1e15 14c+1e50 14d+1e51 1a0+1edc 1a1+1edd 1af+1eea 1b0+1eeb 391+1fba
    395+1fc8 397+1fca 399+1fda 39f+1ff8 3a5+1fea 3a9+1ffa 3b1+1f70 3b5+1f72 3b7+1f74 3b9+1f76
    3bf+1f78 3c5+1f7a 3c9+1f7c 3ca+1fd2 3cb+1fe2 415+400 418+40d 435+450 438+45d 1f00+1f02
    1f01+1f03 1f08+1f0a 1f09+1f0b 1f10+1f12 1f11+1f13 1f18+1f1a 1f19+1f1b 1f20+1f22 1f21+1f23
    1f28+1f2a 1f29+1f2b 1f30+1f32 1f31+1f33 1f38+1f3a 1f39+1f3b 1f40+1f42 1f41+1f43 1f48+1f4a
    1f49+1f4b 1f50+1f52 1f51+1f53 1f59+1f5b 1f60+1f62 1f61+1f63 1f68+1f6a 1f69+1f6b 1fbf+1fcd
    1ffe+1fdd"),
  (0x301,
    "41+c1 43+106 45+c9 47+1f4 49+cd 4b+1e30 4c+139 4d+1e3e 4e+143 4f+d3 50+1e54 52+154 53+15a
    55+da 57+1e82 59+dd 5a+179 61+e1 63+107 65+e9 67+1f5 69+ed 6b+1e31 6c+13a 6d+1e3f 6e+144 6f+f3
    70+1e55 72+155 73+15b 75+fa 77+1e83 79+fd 7a+17a a8+385 c2+1ea4 c5+1fa c6+1fc c7+1e08 ca+1ebe
    cf+1e2e d4+1ed0 d5+1e4c d8+1fe dc+1d7 e2+1ea5 e5+1fb e6+1fd e7+1e09 ea+1ebf ef+1e2f f4+1ed1
    f5+1e4d f8+1ff fc+1d8 102+1eae 103+1eaf 112+1e16 113+1e17 14c+1e52 14d+1e53 168+1e78 169+1e79
    1a0+1eda 1a1+1edb 1af+1ee8 1b0+1ee9 391+386 395+388 397+389 399+38a 39f+38c 3a5+38e 3a9+38f
    3b1+3ac 3b5+3ad 3b7+3ae 3b9+3af 3bf+3cc 3c5+3cd 3c9+3ce 3ca+390 3cb+3b0 3d2+3d3 413+403
    41a+40c 433+453 43a+45c 1f00+1f04 1f01+1f05 1f08+1f0c 1f09+1f0d 1f10+1f14 1f11+1f15 1f18+1f1c
    1f19+1f1d 1f20+1f24 1f21+1f25 1f28+1f2c 1f29+1f2d 1f30+1f34 1f31+1f35 1f38+1f3c 1f39+1f3d
    1f40+1f44 1f41+1f45 1f48+1f4c 1f49+1f4d 1f50+1f54 1f51+1f55 1f59+1f5d 1f60+1f64 1f61+1f65
    1f68+1f6c 1f69+1f6d 1fbf+1fce 1ffe+1fde"),
  (0x302,
    "41+c2 43+108 45+ca 47+11c 48+124 49+ce 4a+134 4f+d4 53+15c 55+db 57+174 59+176 5a+1e90 61+e2
    63+109 65+ea 67+11d 68+125 69+ee 6a+135 6f+f4 73+15d 75+fb 77+175 79+177 7a+1e91 1ea0+1eac
    1ea1+1ead 1eb8+1ec6 1eb9+1ec7 1ecc+1ed8 1ecd+1ed9"),
  (0x303,
    "41+c3 45+1ebc 49+128 4e+d1 4f+d5 55+168 56+1e7c 59+1ef8 61+e3 65+1ebd 69+129 6e+f1 6f+f5
    75+169 76+1e7d 79+1ef9 c2+1eaa ca+1ec4 d4+1ed6 e2+1eab ea+1ec5 f4+1ed7 102+1eb4 103+1eb5
    1a0+1ee0 1a1+1ee1 1af+1eee 1b0+1eef"),
  (0x304,
    "41+100 45+112 47+1e20 49+12a 4f+14c 55+16a 59+232 61+101 65+113 67+1e21 69+12b 6f+14d 75+16b
    79+233 c4+1de c6+1e2 d5+22c d6+22a dc+1d5 e4+1df e6+1e3 f5+22d f6+22b fc+1d6 1ea+1ec 1eb+1ed
    226+1e0 227+1e1 22e+230 22f+231 391+1fb9 399+1fd9 3a5+1fe9 3b1+1fb1 3b9+1fd1 3c5+1fe1 418+4e2
    423+4ee 438+4e3 443+4ef 1e36+1e38 1e37+1e39 1e5a+1e5c 1e5b+1e5d"),
  (0x306,
    "41+102 45+114 47+11e 49+12c 4f+14e 55+16c 61+103 65+115 67+11f 69+12d 6f+14f 75+16d 228+1e1c
    229+1e1d 391+1fb8 399+1fd8 3a5+1fe8 3b1+1fb0 3b9+1fd0 3c5+1fe0 410+4d0 415+4d6 416+4c1 418+419
    423+40e 430+4d1 435+4d7 436+4c2 438+439 443+45e 1ea0+1eb6 1ea1+1eb7"),
  (0x307,
    "41+226 42+1e02 43+10a 44+1e0a 45+116 46+1e1e 47+120 48+1e22 49+130 4d+1e40 4e+1e44 4f+22e
    50+1e56 52+1e58 53+1e60 54+1e6a 57+1e86 58+1e8a 59+1e8e 5a+17b 61+227 62+1e03 63+10b 64+1e0b
    65+117 66+1e1f 67+121 68+1e23 6d+1e41 6e+1e45 6f+22f 70+1e57 72+1e59 73+1e61 74+1e6b 77+1e87
    78+1e8b 79+1e8f 7a+17c 15a+1e64 15b+1e65 160+1e66 161+1e67 17f+1e9b 1e62+1e68 1e63+1e69
    105d2+105c9 105da+105e4"),
  (0x308,
    "41+c4 45+cb 48+1e26 49+cf 4f+d6 55+dc 57+1e84 58+1e8c 59+178 61+e4 65+eb 68+1e27 69+ef 6f+f6
    74+1e97 75+fc 77+1e85 78+1e8d 79+ff d5+1e4e f5+1e4f 16a+1e7a 16b+1e7b 399+3aa 3a5+3ab 3b9+3ca
    3c5+3cb 3d2+3d4 406+407 410+4d2 415+401 416+4dc 417+4de 418+4e4 41e+4e6 423+4f0 427+4f4
    42b+4f8 42d+4ec 430+4d3 435+451 436+4dd 437+4df 438+4e5 43e+4e7 443+4f1 447+4f5 44b+4f9
    44d+4ed 456+457 4d8+4da 4d9+4db 4e8+4ea 4e9+4eb"),
  (0x309,
    "41+1ea2 45+1eba 49+1ec8 4f+1ece 55+1ee6 59+1ef6 61+1ea3 65+1ebb 69+1ec9 6f+1ecf 75+1ee7
    79+1ef7 c2+1ea8 ca+1ec2 d4+1ed4 e2+1ea9 ea+1ec3 f4+1ed5 102+1eb2 103+1eb3 1a0+1ede 1a1+1edf
    1af+1eec 1b0+1eed"),
  (0x30a, "41+c5 55+16e 61+e5 75+16f 77+1e98 79+1e99"),
  (0x30b, "4f+150 55+170 6f+151 75+171 423+4f2 443+4f3"),
  (0x30c,
    "41+1cd 43+10c 44+10e 45+11a 47+1e6 48+21e 49+1cf 4b+1e8 4c+13d 4e+147 4f+1d1 52+158 53+160
    54+164 55+1d3 5a+17d 61+1ce 63+10d 64+10f 65+11b 67+1e7 68+21f 69+1d0 6a+1f0 6b+1e9 6c+13e
    6e+148 6f+1d2 72+159 73+161 74+165 75+1d4 7a+17e dc+1d9 fc+1da 1b7+1ee 292+1ef"),
  (0x30f,
    "41+200 45+204 49+208 4f+20c 52+210 55+214 61+201 65+205 69+209 6f+20d 72+211 75+215 474+476
    475+477"),
  (0x311,
    "41+202 45+206 49+20a 4f+20e 52+212 55+216 61+203 65+207 69+20b 6f+20f 72+213 75+217"),
  (0x313,
    "391+1f08 395+1f18 397+1f28 399+1f38 39f+1f48 3a9+1f68 3b1+1f00 3b5+1f10 3b7+1f20 3b9+1f30
    3bf+1f40 3c1+1fe4 3c5+1f50 3c9+1f60"),
  (0x314,
    "391+1f09 395+1f19 397+1f29 399+1f39 39f+1f49 3a1+1fec 3a5+1f59 3a9+1f69 3b1+1f01 3b5+1f11
    3b7+1f21 3b9+1f31 3bf+1f41 3c1+1fe5 3c5+1f51 3c9+1f61"),
  (0x31b, "4f+1a0 55+1af 6f+1a1 75+1b0"),
  (0x323,
    "41+1ea0 42+1e04 44+1e0c 45+1eb8 48+1e24 49+1eca 4b+1e32 4c+1e36 4d+1e42 4e+1e46 4f+1ecc
    52+1e5a 53+1e62 54+1e6c 55+1ee4 56+1e7e 57+1e88 59+1ef4 5a+1e92 61+1ea1 62+1e05 64+1e0d
    65+1eb9 68+1e25 69+1ecb 6b+1e33 6c+1e37 6d+1e43 6e+1e47 6f+1ecd 72+1e5b 73+1e63 74+1e6d
    75+1ee5 76+1e7f 77+1e89 79+1ef5 7a+1e93 1a0+1ee2 1a1+1ee3 1af+1ef0 1b0+1ef1"),
  (0x324, "55+1e72 75+1e73"), (0x325, "41+1e00 61+1e01"), (0x326, "53+218 54+21a 73+219 74+21b"),
  (0x327,
    "43+c7 44+1e10 45+228 47+122 48+1e28 4b+136 4c+13b 4e+145 52+156 53+15e 54+162 63+e7 64+1e11
    65+229 67+123 68+1e29 6b+137 6c+13c 6e+146 72+157 73+15f 74+163"),
  (0x328, "41+104 45+118 49+12e 4f+1ea 55+172 61+105 65+119 69+12f 6f+1eb 75+173"),
  (0x32d,
    "44+1e12 45+1e18 4c+1e3c 4e+1e4a 54+1e70 55+1e76 64+1e13 65+1e19 6c+1e3d 6e+1e4b 74+1e71
    75+1e77"),
  (0x32e, "48+1e2a 68+1e2b"), (0x330, "45+1e1a 49+1e2c 55+1e74 65+1e1b 69+1e2d 75+1e75"),
  (0x331,
    "42+1e06 44+1e0e 4b+1e34 4c+1e3a 4e+1e48 52+1e5e 54+1e6e 5a+1e94 62+1e07 64+1e0f 68+1e96
    6b+1e35 6c+1e3b 6e+1e49 72+1e5f 74+1e6f 7a+1e95"),
  (0x338,
    "3c+226e 3d+2260 3e+226f 2190+219a 2192+219b 2194+21ae 21d0+21cd 21d2+21cf 21d4+21ce 2203+2204
    2208+2209 220b+220c 2223+2224 2225+2226 223c+2241 2243+2244 2245+2247 2248+2249 224d+226d
    2261+2262 2264+2270 2265+2271 2272+2274 2273+2275 2276+2278 2277+2279 227a+2280 227b+2281
    227c+22e0 227d+22e1 2282+2284 2283+2285 2286+2288 2287+2289 2291+22e2 2292+22e3 22a2+22ac
    22a8+22ad 22a9+22ae 22ab+22af 22b2+22ea 22b3+22eb 22b4+22ec 22b5+22ed"),
  (0x342,
    "a8+1fc1 3b1+1fb6 3b7+1fc6 3b9+1fd6 3c5+1fe6 3c9+1ff6 3ca+1fd7 3cb+1fe7 1f00+1f06 1f01+1f07
    1f08+1f0e 1f09+1f0f 1f20+1f26 1f21+1f27 1f28+1f2e 1f29+1f2f 1f30+1f36 1f31+1f37 1f38+1f3e
    1f39+1f3f 1f50+1f56 1f51+1f57 1f59+1f5f 1f60+1f66 1f61+1f67 1f68+1f6e 1f69+1f6f 1fbf+1fcf
    1ffe+1fdf"),
  (0x345,
    "391+1fbc 397+1fcc 3a9+1ffc 3ac+1fb4 3ae+1fc4 3b1+1fb3 3b7+1fc3 3c9+1ff3 3ce+1ff4 1f00+1f80
    1f01+1f81 1f02+1f82 1f03+1f83 1f04+1f84 1f05+1f85 1f06+1f86 1f07+1f87 1f08+1f88 1f09+1f89
    1f0a+1f8a 1f0b+1f8b 1f0c+1f8c 1f0d+1f8d 1f0e+1f8e 1f0f+1f8f 1f20+1f90 1f21+1f91 1f22+1f92
    1f23+1f93 1f24+1f94 1f25+1f95 1f26+1f96 1f27+1f97 1f28+1f98 1f29+1f99 1f2a+1f9a 1f2b+1f9b
    1f2c+1f9c 1f2d+1f9d 1f2e+1f9e 1f2f+1f9f 1f60+1fa0 1f61+1fa1 1f62+1fa2 1f63+1fa3 1f64+1fa4
    1f65+1fa5 1f66+1fa6 1f67+1fa7 1f68+1fa8 1f69+1fa9 1f6a+1faa 1f6b+1fab 1f6c+1fac 1f6d+1fad
    1f6e+1fae 1f6f+1faf 1f70+1fb2 1f74+1fc2 1f7c+1ff2 1fb6+1fb7 1fc6+1fc7 1ff6+1ff7"),
  (0x653, "627+622"), (0x654, "627+623 648+624 64a+626 6c1+6c2 6d2+6d3 6d5+6c0"),
  (0x655, "627+625"), (0x93c, "928+929 930+931 933+934"), (0x9be, "9c7+9cb"), (0x9d7, "9c7+9cc"),
  (0xb3e, "b47+b4b"), (0xb56, "b47+b48"), (0xb57, "b47+b4c"), (0xbbe, "bc6+bca bc7+bcb"),
  (0xbd7, "b92+b94 bc6+bcc"), (0xc56, "c46+c48"), (0xcc2, "cc6+cca"),
  (0xcd5, "cbf+cc0 cc6+cc7 cca+ccb"), (0xcd6, "cc6+cc8"), (0xd3e, "d46+d4a d47+d4b"),
  (0xd57, "d46+d4c"), (0xdca, "dd9+dda ddc+ddd"), (0xdcf, "dd9+ddc"), (0xddf, "dd9+dde"),
  (0x102e, "1025+1026"),
  (0x1b35,
    "1b05+1b06 1b07+1b08 1b09+1b0a 1b0b+1b0c 1b0d+1b0e 1b11+1b12 1b3a+1b3b 1b3c+1b3d 1b3e+1b40
    1b3f+1b41 1b42+1b43"),
  (0x3099,
    "3046+3094 304b+304c 304d+304e 304f+3050 3051+3052 3053+3054 3055+3056 3057+3058 3059+305a
    305b+305c 305d+305e 305f+3060 3061+3062 3064+3065 3066+3067 3068+3069 306f+3070 3072+3073
    3075+3076 3078+3079 307b+307c 309d+309e 30a6+30f4 30ab+30ac 30ad+30ae 30af+30b0 30b1+30b2
    30b3+30b4 30b5+30b6 30b7+30b8 30b9+30ba 30bb+30bc 30bd+30be 30bf+30c0 30c1+30c2 30c4+30c5
    30c6+30c7 30c8+30c9 30cf+30d0 30d2+30d3 30d5+30d6 30d8+30d9 30db+30dc 30ef+30f7 30f0+30f8
    30f1+30f9 30f2+30fa 30fd+30fe"),
  (0x309a,
    "306f+3071 3072+3074 3075+3077 3078+307a 307b+307d 30cf+30d1 30d2+30d4 30d5+30d7 30d8+30da
    30db+30dd"),
  (0x110ba, "11099+1109a 1109b+1109c 110a5+110ab"), (0x11127, "11131+1112e 11132+1112f"),
  (0x1133e, "11347+1134b"), (0x11357, "11347+1134c"), (0x113b8, "113c2+113c7"),
  (0x113bb, "11384+11385"), (0x113c2, "1138b+1138e 113c2+113c5"),
  (0x113c9, "11382+11383 11390+11391 113c2+113c8"), (0x114b0, "114b9+114bc"),
  (0x114ba, "114b9+114bb"), (0x114bd, "114b9+114be"), (0x115af, "115b8+115ba 115b9+115bb"),
  (0x11930, "11935+11938"), (0x1611e, "1611e+16121"),
  (0x1611f, "1611e+16123 16121+16126 16122+16127 16129+16124"),
  (0x16120, "1611e+16125 16121+16128"), (0x16129, "1611e+16122"),
  (0x16d67, "16d63+16d69 16d67+16d68 16d69+16d6a")]

/-- A character, a mark that follows it, and what both together are. -/
structure Triple where
  base : Nat
  mark : Nat
  whole : Nat

def triples : List Triple :=
  written.flatMap fun w => (TableText.groups w.2).filterMap fun g =>
    match g with
    | [base, whole] => some ⟨base, w.1, whole⟩
    | _ => none

/-- Syllables of Hangul are numbered by leading consonant, vowel and trailing
consonant, of which there are 19, 21 and 27 or none. -/
def syllables : Nat := 0xac00

def split? (c : Char) : Option (Char × Char) :=
  let n := c.toNat
  if syllables ≤ n && n < syllables + 11172 then
    let k := n - syllables
    if k % 28 == 0 then
      some (Char.ofNat (0x1100 + k / 588), Char.ofNat (0x1161 + k % 588 / 28))
    else some (Char.ofNat (n - k % 28), Char.ofNat (0x11a7 + k % 28))
  else
    (triples.find? fun t => t.whole == n).map fun t => (Char.ofNat t.base, Char.ofNat t.mark)

def join? (a b : Char) : Option Char :=
  let x := a.toNat
  let y := b.toNat
  if 0x1100 ≤ x && x < 0x1113 && 0x1161 ≤ y && y < 0x1176 then
    some (Char.ofNat (syllables + (x - 0x1100) * 588 + (y - 0x1161) * 28))
  else if syllables ≤ x && x < syllables + 11172 && (x - syllables) % 28 == 0
      && 0x11a8 ≤ y && y < 0x11c3 then
    some (Char.ofNat (x + (y - 0x11a7)))
  else
    (triples.find? fun t => t.base == x && t.mark == y).map fun t => Char.ofNat t.whole

def parts : Nat → Char → List Char
  | 0, c => [c]
  | levels + 1, c =>
    match split? c with
    | some (a, b) => parts levels a ++ [b]
    | none => [c]

/-- Puts a mark behind those of the same or a lower class; a character of class zero is
not passed. The marks are given with their classes, the last one first. -/
def insertMark (k : Nat) (c : Char) : List (Nat × Char) → List (Nat × Char)
  | (j, d) :: rest => if k < j then (j, d) :: insertMark k c rest else (k, c) :: (j, d) :: rest
  | [] => [(k, c)]

def decompose (s : List Char) : List (Nat × Char) :=
  ((s.flatMap (parts 3)).foldl (fun done c =>
    let k := CombiningClass.of c
    if k == 0 then (0, c) :: done else insertMark k c done) []).reverse

/-- A text being composed: what is complete, the last one first, the character that may
still be joined with what follows, and the marks that follow it, the last one first. -/
structure State where
  done : List Char
  base : Option Char
  marks : List (Nat × Char)

def State.flush (s : State) : List Char := s.marks.map (·.2) ++ s.base.toList ++ s.done

/-- The next character joins the last one of class zero if no mark between them is in
its way, that is, if the last such mark is of a lower class. -/
def State.next (s : State) (p : Nat × Char) : State :=
  let joined := match s.base, s.marks with
    | some a, [] => join? a p.2
    | some a, (j, _) :: _ => if j < p.1 then join? a p.2 else none
    | none, _ => none
  match joined with
  | some c => { s with base := some c }
  | none => if p.1 == 0 then ⟨s.flush, some p.2, []⟩ else { s with marks := p :: s.marks }

def compose (s : List Char) : List Char :=
  ((decompose s).foldl State.next ⟨[], none, []⟩).flush.reverse

end Composition
end Verdict
