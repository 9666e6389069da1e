import LakeCatalog.Text.CodeTable

/-!
# Marks

A mark belongs to the character before it.  Marks that are drawn in the same place keep their
order, and any others may change it; the combining class of a mark says where it is drawn.  The
tables hold the marks of Unicode 17 that a name may hold.

* `combiningClass` — the class of a mark, zero for every other character;
* `isNonspacing`, `isMark` — whether a character is a mark without a width of its own, and
  whether it is a mark at all.
-/

namespace LakeCatalog.Text

/-- Classes, each with both ends of a range. -/
def combiningClasses : List (List Nat) := records
   ["e6.300.314 e8.315.315 dc.316.319 e8.31a.31a d8.31b.31b dc.31c.320 ca.321.322 dc.323.326",
    "ca.327.328 dc.329.333 1.334.338 dc.339.33c e6.33d.344 f0.345.345 e6.346.346 dc.347.349",
    "e6.34a.34c dc.34d.34e e6.350.352 dc.353.356 e6.357.357 e8.358.358 dc.359.35a e6.35b.35b",
    "e9.35c.35c ea.35d.35e e9.35f.35f ea.360.361 e9.362.362 e6.363.36f e6.483.487 dc.591.591",
    "e6.592.595 dc.596.596 e6.597.599 de.59a.59a dc.59b.59b e6.59c.5a1 dc.5a2.5a7 e6.5a8.5a9",
    "dc.5aa.5aa e6.5ab.5ac de.5ad.5ad e4.5ae.5ae e6.5af.5af a.5b0.5b0 b.5b1.5b1 c.5b2.5b2",
    "d.5b3.5b3 e.5b4.5b4 f.5b5.5b5 10.5b6.5b6 11.5b7.5b7 12.5b8.5b8 13.5b9.5ba 14.5bb.5bb",
    "15.5bc.5bc 16.5bd.5bd 17.5bf.5bf 18.5c1.5c1 19.5c2.5c2 e6.5c4.5c4 dc.5c5.5c5 12.5c7.5c7",
    "e6.610.617 1e.618.618 1f.619.619 20.61a.61a 1b.64b.64b 1c.64c.64c 1d.64d.64d 1e.64e.64e",
    "1f.64f.64f 20.650.650 21.651.651 22.652.652 e6.653.654 dc.655.656 e6.657.65b dc.65c.65c",
    "e6.65d.65e dc.65f.65f 23.670.670 e6.6d6.6dc e6.6df.6e2 dc.6e3.6e3 e6.6e4.6e4 e6.6e7.6e8",
    "dc.6ea.6ea e6.6eb.6ec dc.6ed.6ed 24.711.711 e6.730.730 dc.731.731 e6.732.733 dc.734.734",
    "e6.735.736 dc.737.739 e6.73a.73a dc.73b.73c e6.73d.73d dc.73e.73e e6.73f.741 dc.742.742",
    "e6.743.743 dc.744.744 e6.745.745 dc.746.746 e6.747.747 dc.748.748 e6.749.74a e6.7eb.7f1",
    "dc.7f2.7f2 e6.7f3.7f3 dc.7fd.7fd e6.816.819 e6.81b.823 e6.825.827 e6.829.82d dc.859.85b",
    "e6.897.898 dc.899.89b e6.89c.89f e6.8ca.8ce dc.8cf.8d3 e6.8d4.8e1 dc.8e3.8e3 e6.8e4.8e5",
    "dc.8e6.8e6 e6.8e7.8e8 dc.8e9.8e9 e6.8ea.8ec dc.8ed.8ef 1b.8f0.8f0 1c.8f1.8f1 1d.8f2.8f2",
    "e6.8f3.8f5 dc.8f6.8f6 e6.8f7.8f8 dc.8f9.8fa e6.8fb.8ff 7.93c.93c 9.94d.94d e6.951.951",
    "dc.952.952 e6.953.954 7.9bc.9bc 9.9cd.9cd e6.9fe.9fe 7.a3c.a3c 9.a4d.a4d 7.abc.abc",
    "9.acd.acd 7.b3c.b3c 9.b4d.b4d 9.bcd.bcd 7.c3c.c3c 9.c4d.c4d 54.c55.c55 5b.c56.c56 7.cbc.cbc",
    "9.ccd.ccd 9.d3b.d3c 9.d4d.d4d 9.dca.dca 67.e38.e39 9.e3a.e3a 6b.e48.e4b 76.eb8.eb9",
    "9.eba.eba 7a.ec8.ecb dc.f18.f19 dc.f35.f35 dc.f37.f37 d8.f39.f39 81.f71.f71 82.f72.f72",
    "84.f74.f74 82.f7a.f7d 82.f80.f80 e6.f82.f83 9.f84.f84 e6.f86.f87 dc.fc6.fc6 7.1037.1037",
    "9.1039.103a dc.108d.108d e6.135d.135f 9.1714.1715 9.1734.1734 9.17d2.17d2 e6.17dd.17dd",
    "e4.18a9.18a9 de.1939.1939 e6.193a.193a dc.193b.193b e6.1a17.1a17 dc.1a18.1a18 9.1a60.1a60",
    "e6.1a75.1a7c dc.1a7f.1a7f e6.1ab0.1ab4 dc.1ab5.1aba e6.1abb.1abc dc.1abd.1abd dc.1abf.1ac0",
    "e6.1ac1.1ac2 dc.1ac3.1ac4 e6.1ac5.1ac9 dc.1aca.1aca e6.1acb.1adc dc.1add.1add e6.1ae0.1ae5",
    "dc.1ae6.1ae6 e6.1ae7.1aea ea.1aeb.1aeb 7.1b34.1b34 9.1b44.1b44 e6.1b6b.1b6b dc.1b6c.1b6c",
    "e6.1b6d.1b73 9.1baa.1bab 7.1be6.1be6 9.1bf2.1bf3 7.1c37.1c37 e6.1cd0.1cd2 1.1cd4.1cd4",
    "dc.1cd5.1cd9 e6.1cda.1cdb dc.1cdc.1cdf e6.1ce0.1ce0 1.1ce2.1ce8 dc.1ced.1ced e6.1cf4.1cf4",
    "e6.1cf8.1cf9 e6.1dc0.1dc1 dc.1dc2.1dc2 e6.1dc3.1dc9 dc.1dca.1dca e6.1dcb.1dcc ea.1dcd.1dcd",
    "d6.1dce.1dce dc.1dcf.1dcf ca.1dd0.1dd0 e6.1dd1.1df5 e8.1df6.1df6 e4.1df7.1df8 dc.1df9.1df9",
    "da.1dfa.1dfa e6.1dfb.1dfb e9.1dfc.1dfc dc.1dfd.1dfd e6.1dfe.1dfe dc.1dff.1dff e6.20d0.20d1",
    "1.20d2.20d3 e6.20d4.20d7 1.20d8.20da e6.20db.20dc e6.20e1.20e1 1.20e5.20e6 e6.20e7.20e7",
    "dc.20e8.20e8 e6.20e9.20e9 1.20ea.20eb dc.20ec.20ef e6.20f0.20f0 e6.2cef.2cf1 9.2d7f.2d7f",
    "e6.2de0.2dff da.302a.302a e4.302b.302b e8.302c.302c de.302d.302d e0.302e.302f 8.3099.309a",
    "e6.a66f.a66f e6.a674.a67d e6.a69e.a69f e6.a6f0.a6f1 9.a806.a806 9.a82c.a82c 9.a8c4.a8c4",
    "e6.a8e0.a8f1 dc.a92b.a92d 9.a953.a953 7.a9b3.a9b3 9.a9c0.a9c0 e6.aab0.aab0 e6.aab2.aab3",
    "dc.aab4.aab4 e6.aab7.aab8 e6.aabe.aabf e6.aac1.aac1 9.aaf6.aaf6 9.abed.abed 1a.fb1e.fb1e",
    "e6.fe20.fe26 dc.fe27.fe2d e6.fe2e.fe2f dc.101fd.101fd dc.102e0.102e0 e6.10376.1037a",
    "dc.10a0d.10a0d e6.10a0f.10a0f e6.10a38.10a38 1.10a39.10a39 dc.10a3a.10a3a 9.10a3f.10a3f",
    "e6.10ae5.10ae5 dc.10ae6.10ae6 e6.10d24.10d27 e6.10d69.10d6d e6.10eab.10eac dc.10efa.10efb",
    "dc.10efd.10eff dc.10f46.10f47 e6.10f48.10f4a dc.10f4b.10f4b e6.10f4c.10f4c dc.10f4d.10f50",
    "e6.10f82.10f82 dc.10f83.10f83 e6.10f84.10f84 dc.10f85.10f85 9.11046.11046 9.11070.11070",
    "9.1107f.1107f 9.110b9.110b9 7.110ba.110ba e6.11100.11102 9.11133.11134 7.11173.11173",
    "9.111c0.111c0 7.111ca.111ca 9.11235.11235 7.11236.11236 7.112e9.112e9 9.112ea.112ea",
    "7.1133b.1133c 9.1134d.1134d e6.11366.1136c e6.11370.11374 9.113ce.113d0 9.11442.11442",
    "7.11446.11446 e6.1145e.1145e 9.114c2.114c2 7.114c3.114c3 9.115bf.115bf 7.115c0.115c0",
    "9.1163f.1163f 9.116b6.116b6 7.116b7.116b7 9.1172b.1172b 9.11839.11839 7.1183a.1183a",
    "9.1193d.1193e 7.11943.11943 9.119e0.119e0 9.11a34.11a34 9.11a47.11a47 9.11a99.11a99",
    "9.11c3f.11c3f 7.11d42.11d42 9.11d44.11d45 9.11d97.11d97 9.11f41.11f42 9.1612f.1612f",
    "1.16af0.16af4 e6.16b30.16b36 6.16ff0.16ff1 1.1bc9e.1bc9e d8.1d165.1d166 1.1d167.1d169",
    "e2.1d16d.1d16d d8.1d16e.1d172 dc.1d17b.1d182 e6.1d185.1d189 dc.1d18a.1d18b e6.1d1aa.1d1ad",
    "e6.1d242.1d244 e6.1e000.1e006 e6.1e008.1e018 e6.1e01b.1e021 e6.1e023.1e024 e6.1e026.1e02a",
    "e6.1e08f.1e08f e6.1e130.1e136 e6.1e2ae.1e2ae e6.1e2ec.1e2ef e8.1e4ec.1e4ed dc.1e4ee.1e4ee",
    "e6.1e4ef.1e4ef e6.1e5ee.1e5ee dc.1e5ef.1e5ef e6.1e6e3.1e6e3 e6.1e6e6.1e6e6 e6.1e6ee.1e6ef",
    "e6.1e6f5.1e6f5 dc.1e8d0.1e8d6 e6.1e944.1e949 7.1e94a.1e94a"]

/-- The combining class of a character. -/
def combiningClass (c : Char) : Nat :=
  if c.toNat < 0x300 then 0
  else (combiningClasses.findSome? fun
    | [k, m, n] => if m ≤ c.toNat ∧ c.toNat ≤ n then some k else none
    | _ => none).getD 0

/-- The class of the marks that take away the vowel of a letter. -/
def viramaClass : Nat := 9

/-- Marks without a width of their own. -/
def nonspacingMarks : List (Nat × Nat) := ranges
   ["300.33f 342 346.34e 350.36f 483.489 591.5bd 5bf 5c1.5c2 5c4.5c5 5c7 610.61a 64b.65f 670",
    "6d6.6dc 6df.6e4 6e7.6e8 6ea.6ed 711 730.74a 7a6.7b0 7eb.7f3 7fd 816.819 81b.823 825.827",
    "829.82d 859.85b 897.89f 8ca.8e1 8e3.902 93a 93c 941.948 94d 951.957 962.963 981 9bc 9c1.9c4",
    "9cd 9e2.9e3 9fe a01.a02 a3c a41.a42 a47.a48 a4b.a4d a51 a70.a71 a75 a81.a82 abc ac1.ac5",
    "ac7.ac8 acd ae2.ae3 afa.aff b01 b3c b3f b41.b44 b4d b55.b56 b62.b63 b82 bc0 bcd c00 c04 c3c",
    "c3e.c40 c46.c48 c4a.c4d c55.c56 c62.c63 c81 cbc ccc.ccd ce2.ce3 d00.d01 d3b.d3c d41.d44 d4d",
    "d62.d63 d81 dca dd2.dd4 dd6 e31 e34.e3a e47.e4e eb1 eb4.ebc ec8.ece f18.f19 f35 f37 f39",
    "f71.f72 f74 f7a.f7e f80 f82.f84 f86.f87 f8d.f92 f94.f97 f99.f9c f9e.fa1 fa3.fa6 fa8.fab",
    "fad.fb8 fba.fbc fc6 102d.1030 1032.1037 1039.103a 103d.103e 1058.1059 105e.1060 1071.1074",
    "1082 1085.1086 108d 109d 135d.135f 1712.1714 1732.1733 1752.1753 1772.1773 17b7.17bd 17c6",
    "17c9.17d3 17dd 1885.1886 18a9 1920.1922 1927.1928 1932 1939.193b 1a17.1a18 1a1b 1a56",
    "1a58.1a5e 1a60 1a62 1a65.1a6c 1a73.1a7c 1a7f 1ab0.1add 1ae0.1aeb 1b00.1b03 1b34 1b36.1b3a",
    "1b3c 1b42 1b6b.1b73 1b80.1b81 1ba2.1ba5 1ba8.1ba9 1bab.1bad 1be6 1be8.1be9 1bed 1bef.1bf1",
    "1c2c.1c33 1c36.1c37 1cd0.1cd2 1cd4.1ce0 1ce2.1ce8 1ced 1cf4 1cf8.1cf9 1dc0.1dff 20d0.20f0",
    "2cef.2cf1 2d7f 2de0.2dff 302a.302d 3099.309a a66f.a672 a674.a67d a69e.a69f a6f0.a6f1 a802",
    "a806 a80b a825.a826 a82c a8c4.a8c5 a8e0.a8f1 a8ff a926.a92d a947.a951 a980.a982 a9b3",
    "a9b6.a9b9 a9bc.a9bd a9e5 aa29.aa2e aa31.aa32 aa35.aa36 aa43 aa4c aa7c aab0 aab2.aab4",
    "aab7.aab8 aabe.aabf aac1 aaec.aaed aaf6 abe5 abe8 abed fb1e fe20.fe2f 101fd 102e0",
    "10376.1037a 10a01.10a03 10a05.10a06 10a0c.10a0f 10a38.10a3a 10a3f 10ae5.10ae6 10d24.10d27",
    "10d69.10d6d 10eab.10eac 10efa.10eff 10f46.10f50 10f82.10f85 11001 11038.11046 11070",
    "11073.11074 1107f.11081 110b3.110b6 110b9.110ba 110c2 11100.11102 11127.1112b 1112d.11134",
    "11173 11180.11181 111b6.111be 111c9.111cc 111cf 1122f.11231 11234 11236.11237 1123e 11241",
    "112df 112e3.112ea 11300.11301 1133b.1133c 11340 11366.1136c 11370.11374 113bb.113c0 113ce",
    "113d0 113d2 113e1.113e2 11438.1143f 11442.11444 11446 1145e 114b3.114b8 114ba 114bf.114c0",
    "114c2.114c3 115b2.115b5 115bc.115bd 115bf.115c0 115dc.115dd 11633.1163a 1163d 1163f.11640",
    "116ab 116ad 116b0.116b5 116b7 1171d 1171f 11722.11725 11727.1172b 1182f.11837 11839.1183a",
    "1193b.1193c 1193e 11943 119d4.119d7 119da.119db 119e0 11a01.11a06 11a09.11a0a 11a33.11a38",
    "11a3b.11a3e 11a47 11a51.11a56 11a59.11a5b 11a8a.11a96 11a98.11a99 11b60 11b62.11b64 11b66",
    "11c30.11c36 11c38.11c3d 11c92.11ca7 11caa.11cb0 11cb2.11cb3 11cb5.11cb6 11d31.11d36 11d3a",
    "11d3c.11d3d 11d3f.11d45 11d47 11d90.11d91 11d95 11d97 11ef3.11ef4 11f00.11f01 11f36.11f3a",
    "11f40 11f42 11f5a 13440 13447.13455 1611e.16129 1612d.1612f 16af0.16af4 16b30.16b36 16f4f",
    "16f8f.16f92 16fe4 1bc9d.1bc9e 1cf00.1cf2d 1cf30.1cf46 1d167.1d169 1d17b.1d182 1d185.1d18b",
    "1d1aa.1d1ad 1d242.1d244 1da00.1da36 1da3b.1da6c 1da75 1da84 1da9b.1da9f 1daa1.1daaf",
    "1e000.1e006 1e008.1e018 1e01b.1e021 1e023.1e024 1e026.1e02a 1e08f 1e130.1e136 1e2ae",
    "1e2ec.1e2ef 1e4ec.1e4ef 1e5ee.1e5ef 1e6e3 1e6e6 1e6ee.1e6ef 1e6f5 1e8d0.1e8d6 1e944.1e94a"]

/-- All other marks. -/
def otherMarks : List (Nat × Nat) := ranges
   ["903 93b 93e.940 949.94c 94e.94f 982.983 9be.9c0 9c7.9c8 9cb.9cc 9d7 a03 a3e.a40 a83 abe.ac0",
    "ac9 acb.acc b02.b03 b3e b40 b47.b48 b4b.b4c b57 bbe.bbf bc1.bc2 bc6.bc8 bca.bcc bd7 c01.c03",
    "c41.c44 c82.c83 cbe.cc4 cc6.cc8 cca.ccb cd5.cd6 cf3 d02.d03 d3e.d40 d46.d48 d4a.d4c d57",
    "d82.d83 dcf.dd1 dd8.ddf df2.df3 f3e.f3f f7f 102b.102c 1031 1038 103b.103c 1056.1057",
    "1062.1064 1067.106d 1083.1084 1087.108c 108f 109a.109c 1715 1734 17b6 17be.17c5 17c7.17c8",
    "1923.1926 1929.192b 1930.1931 1933.1938 1a19.1a1a 1a55 1a57 1a61 1a63.1a64 1a6d.1a72 1b04",
    "1b35 1b3b 1b3d.1b41 1b43.1b44 1b82 1ba1 1ba6.1ba7 1baa 1be7 1bea.1bec 1bee 1bf2.1bf3",
    "1c24.1c2b 1c34.1c35 1ce1 1cf7 302e.302f a823.a824 a827 a880.a881 a8b4.a8c3 a952.a953 a983",
    "a9b4.a9b5 a9ba.a9bb a9be.a9c0 aa2f.aa30 aa33.aa34 aa4d aa7b aa7d aaeb aaee.aaef aaf5",
    "abe3.abe4 abe6.abe7 abe9.abea abec 11000 11002 11082 110b0.110b2 110b7.110b8 1112c",
    "11145.11146 11182 111b3.111b5 111bf.111c0 111ce 1122c.1122e 11232.11233 11235 112e0.112e2",
    "11302.11303 1133e.1133f 11341.11344 11347.11348 1134b.1134d 11357 11362.11363 113b8.113ba",
    "113c2 113c5 113c7.113ca 113cc.113cd 113cf 11435.11437 11440.11441 11445 114b0.114b2 114b9",
    "114bb.114be 114c1 115af.115b1 115b8.115bb 115be 11630.11632 1163b.1163c 1163e 116ac",
    "116ae.116af 116b6 1171e 11720.11721 11726 1182c.1182e 11838 11930.11935 11937.11938 1193d",
    "11940 11942 119d1.119d3 119dc.119df 119e4 11a07.11a08 11a39 11a57.11a58 11a97 11b61 11b65",
    "11b67 11c2f 11c3e.11c3f 11ca9 11cb1 11cb4 11d8a.11d8e 11d93.11d94 11d96 11ef5.11ef6 11f03",
    "11f34.11f35 11f3e.11f3f 11f41 1612a.1612c 16f51.16f87 16ff0.16ff1 1d165.1d166 1d16d.1d172"]

/-- Whether the character is a mark without a width of its own. -/
def isNonspacing (c : Char) : Bool := 0x300 ≤ c.toNat && inRanges nonspacingMarks c.toNat

/-- Whether the character is a mark. -/
def isMark (c : Char) : Bool :=
  isNonspacing c || (0x300 ≤ c.toNat && inRanges otherMarks c.toNat)

end LakeCatalog.Text
