import LakeCatalog.Text.Canonical

/-!
# Equivalent names

Names are compared without regard to capitals, wide and narrow forms and the like: each character
is replaced by those that it is equivalent to, some are left out, and some no name may hold.
What comes of it is brought into canonical form.  The tables are those of Unicode 17.

* `mapChar?` — what a character is replaced by;
* `prepare?` — the name that all equivalent names have in common;
* `isStable` — whether a name is the one that it would be replaced by.
-/

namespace LakeCatalog.Url.Domain

open Text (records ranges inRanges lower)

/-- The code points beyond ASCII that a name may be given with. -/
def allowed : List (Nat × Nat) := ranges
   ["a0.377 37a.37f 384.38a 38c 38e.3a1 3a3.52f 531.556 559.58a 58d.58f 591.5c7 5d0.5ea 5ef.5f4",
    "606.61b 61d.6dc 6de.70d 710.74a 74d.7b1 7c0.7fa 7fd.82d 830.83e 840.85b 85e 860.86a 870.88f",
    "897.8e1 8e3.983 985.98c 98f.990 993.9a8 9aa.9b0 9b2 9b6.9b9 9bc.9c4 9c7.9c8 9cb.9ce 9d7",
    "9dc.9dd 9df.9e3 9e6.9fe a01.a03 a05.a0a a0f.a10 a13.a28 a2a.a30 a32.a33 a35.a36 a38.a39 a3c",
    "a3e.a42 a47.a48 a4b.a4d a51 a59.a5c a5e a66.a76 a81.a83 a85.a8d a8f.a91 a93.aa8 aaa.ab0",
    "ab2.ab3 ab5.ab9 abc.ac5 ac7.ac9 acb.acd ad0 ae0.ae3 ae6.af1 af9.aff b01.b03 b05.b0c b0f.b10",
    "b13.b28 b2a.b30 b32.b33 b35.b39 b3c.b44 b47.b48 b4b.b4d b55.b57 b5c.b5d b5f.b63 b66.b77",
    "b82.b83 b85.b8a b8e.b90 b92.b95 b99.b9a b9c b9e.b9f ba3.ba4 ba8.baa bae.bb9 bbe.bc2 bc6.bc8",
    "bca.bcd bd0 bd7 be6.bfa c00.c0c c0e.c10 c12.c28 c2a.c39 c3c.c44 c46.c48 c4a.c4d c55.c56",
    "c58.c5a c5c.c5d c60.c63 c66.c6f c77.c8c c8e.c90 c92.ca8 caa.cb3 cb5.cb9 cbc.cc4 cc6.cc8",
    "cca.ccd cd5.cd6 cdc.cde ce0.ce3 ce6.cef cf1.cf3 d00.d0c d0e.d10 d12.d44 d46.d48 d4a.d4f",
    "d54.d63 d66.d7f d81.d83 d85.d96 d9a.db1 db3.dbb dbd dc0.dc6 dca dcf.dd4 dd6 dd8.ddf de6.def",
    "df2.df4 e01.e3a e3f.e5b e81.e82 e84 e86.e8a e8c.ea3 ea5 ea7.ebd ec0.ec4 ec6 ec8.ece ed0.ed9",
    "edc.edf f00.f47 f49.f6c f71.f97 f99.fbc fbe.fcc fce.fda 1000.10c5 10c7 10cd 10d0.1248",
    "124a.124d 1250.1256 1258 125a.125d 1260.1288 128a.128d 1290.12b0 12b2.12b5 12b8.12be 12c0",
    "12c2.12c5 12c8.12d6 12d8.1310 1312.1315 1318.135a 135d.137c 1380.1399 13a0.13f5 13f8.13fd",
    "1400.167f 1681.169c 16a0.16f8 1700.1715 171f.1736 1740.1753 1760.176c 176e.1770 1772.1773",
    "1780.17dd 17e0.17e9 17f0.17f9 1800.1819 1820.1878 1880.18aa 18b0.18f5 1900.191e 1920.192b",
    "1930.193b 1940 1944.196d 1970.1974 1980.19ab 19b0.19c9 19d0.19da 19de.1a1b 1a1e.1a5e",
    "1a60.1a7c 1a7f.1a89 1a90.1a99 1aa0.1aad 1ab0.1add 1ae0.1aeb 1b00.1b4c 1b4e.1bf3 1bfc.1c37",
    "1c3b.1c49 1c4d.1c8a 1c90.1cba 1cbd.1cc7 1cd0.1cfa 1d00.1f15 1f18.1f1d 1f20.1f45 1f48.1f4d",
    "1f50.1f57 1f59 1f5b 1f5d 1f5f.1f7d 1f80.1fb4 1fb6.1fc4 1fc6.1fd3 1fd6.1fdb 1fdd.1fef",
    "1ff2.1ff4 1ff6.1ffe 2000.200d 2010.2023 2027 202f.2064 206a.2071 2074.208e 2090.209c",
    "20a0.20c1 20d0.20f0 2100.218b 2190.2429 2440.244a 2460.2487 249c.2b73 2b76.2cf3 2cf9.2d25",
    "2d27 2d2d 2d30.2d67 2d6f.2d70 2d7f.2d96 2da0.2da6 2da8.2dae 2db0.2db6 2db8.2dbe 2dc0.2dc6",
    "2dc8.2dce 2dd0.2dd6 2dd8.2dde 2de0.2e5d 2e80.2e99 2e9b.2ef3 2f00.2fd5 3000.303f 3041.3096",
    "3099.30ff 3105.312f 3131.318e 3190.31e5 31f0.321e 3220.33c1 33c3.33c6 33c8.33d7 33d9.a48c",
    "a490.a4c6 a4d0.a62b a640.a6f7 a700.a7dc a7f1.a82c a830.a839 a840.a877 a880.a8c5 a8ce.a8d9",
    "a8e0.a953 a95f.a97c a980.a9cd a9cf.a9d9 a9de.a9fe aa00.aa36 aa40.aa4d aa50.aa59 aa5c.aac2",
    "aadb.aaf6 ab01.ab06 ab09.ab0e ab11.ab16 ab20.ab26 ab28.ab2e ab30.ab6b ab70.abed abf0.abf9",
    "ac00.d7a3 d7b0.d7c6 d7cb.d7fb f900.fa6d fa70.fad9 fb00.fb06 fb13.fb17 fb1d.fb36 fb38.fb3c",
    "fb3e fb40.fb41 fb43.fb44 fb46.fdcf fdf0.fe11 fe13.fe18 fe20.fe2f fe31.fe51 fe54.fe66",
    "fe68.fe6b fe70.fe74 fe76.fefc feff ff01.ffbe ffc2.ffc7 ffca.ffcf ffd2.ffd7 ffda.ffdc",
    "ffe0.ffe6 ffe8.ffee 10000.1000b 1000d.10026 10028.1003a 1003c.1003d 1003f.1004d 10050.1005d",
    "10080.100fa 10100.10102 10107.10133 10137.1018e 10190.1019c 101a0 101d0.101fd 10280.1029c",
    "102a0.102d0 102e0.102fb 10300.10323 1032d.1034a 10350.1037a 10380.1039d 1039f.103c3",
    "103c8.103d5 10400.1049d 104a0.104a9 104b0.104d3 104d8.104fb 10500.10527 10530.10563",
    "1056f.1057a 1057c.1058a 1058c.10592 10594.10595 10597.105a1 105a3.105b1 105b3.105b9",
    "105bb.105bc 105c0.105f3 10600.10736 10740.10755 10760.10767 10780.10785 10787.107b0",
    "107b2.107ba 10800.10805 10808 1080a.10835 10837.10838 1083c 1083f.10855 10857.1089e",
    "108a7.108af 108e0.108f2 108f4.108f5 108fb.1091b 1091f.10939 1093f.10959 10980.109b7",
    "109bc.109cf 109d2.10a03 10a05.10a06 10a0c.10a13 10a15.10a17 10a19.10a35 10a38.10a3a",
    "10a3f.10a48 10a50.10a58 10a60.10a9f 10ac0.10ae6 10aeb.10af6 10b00.10b35 10b39.10b55",
    "10b58.10b72 10b78.10b91 10b99.10b9c 10ba9.10baf 10c00.10c48 10c80.10cb2 10cc0.10cf2",
    "10cfa.10d27 10d30.10d39 10d40.10d65 10d69.10d85 10d8e.10d8f 10e60.10e7e 10e80.10ea9",
    "10eab.10ead 10eb0.10eb1 10ec2.10ec7 10ed0.10ed8 10efa.10f27 10f30.10f59 10f70.10f89",
    "10fb0.10fcb 10fe0.10ff6 11000.1104d 11052.11075 1107f.110bc 110be.110c2 110d0.110e8",
    "110f0.110f9 11100.11134 11136.11147 11150.11176 11180.111df 111e1.111f4 11200.11211",
    "11213.11241 11280.11286 11288 1128a.1128d 1128f.1129d 1129f.112a9 112b0.112ea 112f0.112f9",
    "11300.11303 11305.1130c 1130f.11310 11313.11328 1132a.11330 11332.11333 11335.11339",
    "1133b.11344 11347.11348 1134b.1134d 11350 11357 1135d.11363 11366.1136c 11370.11374",
    "11380.11389 1138b 1138e 11390.113b5 113b7.113c0 113c2 113c5 113c7.113ca 113cc.113d5",
    "113d7.113d8 113e1.113e2 11400.1145b 1145d.11461 11480.114c7 114d0.114d9 11580.115b5",
    "115b8.115dd 11600.11644 11650.11659 11660.1166c 11680.116b9 116c0.116c9 116d0.116e3",
    "11700.1171a 1171d.1172b 11730.11746 11800.1183b 118a0.118f2 118ff.11906 11909 1190c.11913",
    "11915.11916 11918.11935 11937.11938 1193b.11946 11950.11959 119a0.119a7 119aa.119d7",
    "119da.119e4 11a00.11a47 11a50.11aa2 11ab0.11af8 11b00.11b09 11b60.11b67 11bc0.11be1",
    "11bf0.11bf9 11c00.11c08 11c0a.11c36 11c38.11c45 11c50.11c6c 11c70.11c8f 11c92.11ca7",
    "11ca9.11cb6 11d00.11d06 11d08.11d09 11d0b.11d36 11d3a 11d3c.11d3d 11d3f.11d47 11d50.11d59",
    "11d60.11d65 11d67.11d68 11d6a.11d8e 11d90.11d91 11d93.11d98 11da0.11da9 11db0.11ddb",
    "11de0.11de9 11ee0.11ef8 11f00.11f10 11f12.11f3a 11f3e.11f5a 11fb0 11fc0.11ff1 11fff.12399",
    "12400.1246e 12470.12474 12480.12543 12f90.12ff2 13000.1342f 13440.13455 13460.143fa",
    "14400.14646 16100.16139 16800.16a38 16a40.16a5e 16a60.16a69 16a6e.16abe 16ac0.16ac9",
    "16ad0.16aed 16af0.16af5 16b00.16b45 16b50.16b59 16b5b.16b61 16b63.16b77 16b7d.16b8f",
    "16d40.16d79 16e40.16e9a 16ea0.16eb8 16ebb.16ed3 16f00.16f4a 16f4f.16f87 16f8f.16f9f",
    "16fe0.16fe4 16ff0.16ff6 17000.18cd5 18cff.18d1e 18d80.18df2 1aff0.1aff3 1aff5.1affb",
    "1affd.1affe 1b000.1b122 1b132 1b150.1b152 1b155 1b164.1b167 1b170.1b2fb 1bc00.1bc6a",
    "1bc70.1bc7c 1bc80.1bc88 1bc90.1bc99 1bc9c.1bca3 1cc00.1ccfc 1cd00.1ceb3 1ceba.1ced0",
    "1cee0.1cef0 1cf00.1cf2d 1cf30.1cf46 1cf50.1cfc3 1d000.1d0f5 1d100.1d126 1d129.1d1ea",
    "1d200.1d245 1d2c0.1d2d3 1d2e0.1d2f3 1d300.1d356 1d360.1d378 1d400.1d454 1d456.1d49c",
    "1d49e.1d49f 1d4a2 1d4a5.1d4a6 1d4a9.1d4ac 1d4ae.1d4b9 1d4bb 1d4bd.1d4c3 1d4c5.1d505",
    "1d507.1d50a 1d50d.1d514 1d516.1d51c 1d51e.1d539 1d53b.1d53e 1d540.1d544 1d546 1d54a.1d550",
    "1d552.1d6a5 1d6a8.1d7cb 1d7ce.1da8b 1da9b.1da9f 1daa1.1daaf 1df00.1df1e 1df25.1df2a",
    "1e000.1e006 1e008.1e018 1e01b.1e021 1e023.1e024 1e026.1e02a 1e030.1e06d 1e08f 1e100.1e12c",
    "1e130.1e13d 1e140.1e149 1e14e.1e14f 1e290.1e2ae 1e2c0.1e2f9 1e2ff 1e4d0.1e4f9 1e5d0.1e5fa",
    "1e5ff 1e6c0.1e6de 1e6e0.1e6f5 1e6fe.1e6ff 1e7e0.1e7e6 1e7e8.1e7eb 1e7ed.1e7ee 1e7f0.1e7fe",
    "1e800.1e8c4 1e8c7.1e8d6 1e900.1e94b 1e950.1e959 1e95e.1e95f 1ec71.1ecb4 1ed01.1ed3d",
    "1ee00.1ee03 1ee05.1ee1f 1ee21.1ee22 1ee24 1ee27 1ee29.1ee32 1ee34.1ee37 1ee39 1ee3b 1ee42",
    "1ee47 1ee49 1ee4b 1ee4d.1ee4f 1ee51.1ee52 1ee54 1ee57 1ee59 1ee5b 1ee5d 1ee5f 1ee61.1ee62",
    "1ee64 1ee67.1ee6a 1ee6c.1ee72 1ee74.1ee77 1ee79.1ee7c 1ee7e 1ee80.1ee89 1ee8b.1ee9b",
    "1eea1.1eea3 1eea5.1eea9 1eeab.1eebb 1eef0.1eef1 1f000.1f02b 1f030.1f093 1f0a0.1f0ae",
    "1f0b1.1f0bf 1f0c1.1f0cf 1f0d1.1f0f5 1f101.1f1ad 1f1e6.1f202 1f210.1f23b 1f240.1f248",
    "1f250.1f251 1f260.1f265 1f300.1f6d8 1f6dc.1f6ec 1f6f0.1f6fc 1f700.1f7d9 1f7e0.1f7eb 1f7f0",
    "1f800.1f80b 1f810.1f847 1f850.1f859 1f860.1f887 1f890.1f8ad 1f8b0.1f8bb 1f8c0.1f8c1",
    "1f8d0.1f8d8 1f900.1fa57 1fa60.1fa6d 1fa70.1fa7c 1fa80.1fa8a 1fa8e.1fac6 1fac8 1facd.1fadc",
    "1fadf.1faea 1faef.1faf8 1fb00.1fb92 1fb94.1fbfa 20000.2a6df 2a700.2b81d 2b820.2cead",
    "2ceb0.2ebe0 2ebf0.2ee5d 2f800.2fa1d 30000.3134a 31350.33479 e0100.e01ef"]

/-- The code points that are left out. -/
def ignored : List (Nat × Nat) := ranges
   ["ad 34f 115f.1160 17b4.17b5 180b.180f 200b 2060.2064 206a.206f 3164 fe00.fe0f feff ffa0",
    "1bca0.1bca3 1d173.1d17a e0100.e01ef"]

/-- The code points that are replaced by a single one.  A record has the first of a row of code
points, what it is replaced by, and where the row has more than one, how many there are; then,
where that is not one, how far they and their replacements are apart. -/
def replaced : List (List Nat) := records
   ["a0.20 aa.61 b2.32.2 b5.3bc b9.31 ba.6f c0.e0.17 d8.f8.7 100.101.18.2.2 134.135.2.2.2",
    "139.13a.3.2.2 141.142.4.2.2 14a.14b.17.2.2 178.ff 179.17a.3.2.2 17f.73 181.253",
    "182.183.2.2.2 186.254 187.188 189.256.2 18b.18c 18e.1dd 18f.259 190.25b 191.192 193.260",
    "194.263 196.269 197.268 198.199 19c.26f 19d.272 19f.275 1a0.1a1.3.2.2 1a6.280 1a7.1a8",
    "1a9.283 1ac.1ad 1ae.288 1af.1b0 1b1.28a.2 1b3.1b4.2.2.2 1b7.292 1b8.1b9 1bc.1bd",
    "1cd.1ce.8.2.2 1de.1df.9.2.2 1f4.1f5 1f6.195 1f7.1bf 1f8.1f9.14.2.2 220.19e 222.223.9.2.2",
    "23a.2c65 23b.23c 23d.19a 23e.2c66 241.242 243.180 244.289 245.28c 246.247.5.2.2",
    "2b0.68.2.2.2 2b1.266 2b3.72 2b4.279 2b5.27b 2b6.281 2b7.77 2b8.79 2e0.263 2e1.6c 2e2.73",
    "2e3.78 2e4.295 345.3b9 370.371.2.2.2 376.377 37f.3f3 386.3ac 388.3ad.3 38c.3cc 38e.3cd.2",
    "391.3b1.11 3a3.3c3.9 3cf.3d7 3d0.3b2 3d1.3b8 3d2.3c5 3d3.3cd 3d4.3cb 3d5.3c6 3d6.3c0",
    "3d8.3d9.c.2.2 3f0.3ba 3f1.3c1 3f2.3c3 3f4.3b8 3f5.3b5 3f7.3f8 3f9.3c3 3fa.3fb 3fd.37b.3",
    "400.450.10 410.430.20 460.461.11.2.2 48a.48b.1b.2.2 4c0.4cf 4c1.4c2.7.2.2 4d0.4d1.30.2.2",
    "531.561.26 f0c.f0b 10a0.2d00.26 10c7.2d27 10cd.2d2d 10fc.10dc 13f8.13f0.6 1c80.432 1c81.434",
    "1c82.43e 1c83.441.2 1c85.442 1c86.44a 1c87.463 1c88.a64b 1c89.1c8a 1c90.10d0.2b 1cbd.10fd.3",
    "1d2c.61 1d2d.e6 1d2e.62.2.2.2 1d31.65.5.2.2 1d32.1dd 1d34.68.4.2.2 1d3c.6f 1d3d.223 1d3e.70",
    "1d3f.72 1d40.74.2 1d42.77 1d43.61 1d44.250.2 1d46.1d02 1d47.62 1d48.64.2 1d4a.259",
    "1d4b.25b.2 1d4d.67 1d4f.6b 1d50.6d.2.2.2 1d51.14b 1d53.254 1d54.1d16.2 1d56.70 1d57.74.2",
    "1d59.1d1d 1d5a.26f 1d5b.76 1d5c.1d25 1d5d.3b2.3 1d60.3c6.2 1d62.69 1d63.72 1d64.75.2",
    "1d66.3b2.2 1d68.3c1 1d69.3c6.2 1d78.43d 1d9b.252 1d9c.63 1d9d.255 1d9e.f0 1d9f.25c 1da0.66",
    "1da1.25f 1da2.261 1da3.265 1da4.268.3 1da7.1d7b 1da8.29d 1da9.26d 1daa.1d85 1dab.29f",
    "1dac.271 1dad.270 1dae.272.4 1db2.278 1db3.282.2 1db5.1ab 1db6.289.2 1db8.1d1c 1db9.28b.2",
    "1dbb.7a 1dbc.290.3 1dbf.3b8 1e00.1e01.4b.2.2 1e9b.1e61 1e9e.df 1ea0.1ea1.30.2.2 1f08.1f00.8",
    "1f18.1f10.6 1f28.1f20.8 1f38.1f30.8 1f48.1f40.6 1f59.1f51.4.2.2 1f68.1f60.8 1fb8.1fb0.2",
    "1fba.1f70 1fbb.3ac 1fc8.1f72.2.2.2 1fc9.3ad 1fcb.3ae 1fd8.1fd0.2 1fda.1f76 1fdb.3af",
    "1fe8.1fe0.2 1fea.1f7a 1feb.3cd 1fec.1fe5 1ff8.1f78 1ff9.3cc.2.2.2 1ffa.1f7c 2000.20.b.1.0",
    "2011.2010 202f.20 205f.20 2070.30 2071.69 2074.34.6 207a.2b 207b.2212 207c.3d 207d.28.2",
    "207f.6e 2080.30.a 208a.2b 208b.2212 208c.3d 208d.28.2 2090.61 2091.65 2092.6f 2093.78",
    "2094.259 2095.68 2096.6b.4 209a.70 209b.73.2 2102.63 2107.25b 210a.67.2 210c.68.3.1.0",
    "210f.127 2110.69.2.1.0 2112.6c.2.1.0 2115.6e 2119.70.3 211c.72.2.1.0 2124.7a 2126.3c9",
    "2128.7a 212a.6b 212b.e5 212c.62.2 212f.65.2.1.0 2131.66 2132.214e 2133.6d 2134.6f",
    "2135.5d0.4 2139.69 213c.3c0 213d.3b3.2.1.0 213f.3c0 2140.2211 2145.64.2.1.0 2147.65",
    "2148.69.2 2160.69 2164.76 2169.78 216c.6c 216d.63.2 216f.6d 2170.69 2174.76 2179.78 217c.6c",
    "217d.63.2 217f.6d 2183.2184 2460.31.9 24b6.61.1a 24d0.61.1a 24ea.30 2c00.2c30.30 2c60.2c61",
    "2c62.26b 2c63.1d7d 2c64.27d 2c67.2c68.3.2.2 2c6d.251 2c6e.271 2c6f.250 2c70.252 2c72.2c73",
    "2c75.2c76 2c7c.6a 2c7d.76 2c7e.23f.2 2c80.2c81.32.2.2 2ceb.2cec.2.2.2 2cf2.2cf3 2d6f.2d61",
    "2e9f.6bcd 2ef3.9f9f 2f00.4e00 2f01.4e28 2f02.4e36 2f03.4e3f 2f04.4e59 2f05.4e85 2f06.4e8c",
    "2f07.4ea0 2f08.4eba 2f09.513f 2f0a.5165 2f0b.516b 2f0c.5182 2f0d.5196 2f0e.51ab 2f0f.51e0",
    "2f10.51f5 2f11.5200 2f12.529b 2f13.52f9 2f14.5315 2f15.531a 2f16.5338 2f17.5341 2f18.535c",
    "2f19.5369 2f1a.5382 2f1b.53b6 2f1c.53c8 2f1d.53e3 2f1e.56d7 2f1f.571f 2f20.58eb 2f21.5902",
    "2f22.590a 2f23.5915 2f24.5927 2f25.5973 2f26.5b50 2f27.5b80 2f28.5bf8 2f29.5c0f 2f2a.5c22",
    "2f2b.5c38 2f2c.5c6e 2f2d.5c71 2f2e.5ddb 2f2f.5de5 2f30.5df1 2f31.5dfe 2f32.5e72 2f33.5e7a",
    "2f34.5e7f 2f35.5ef4 2f36.5efe 2f37.5f0b 2f38.5f13 2f39.5f50 2f3a.5f61 2f3b.5f73 2f3c.5fc3",
    "2f3d.6208 2f3e.6236 2f3f.624b 2f40.652f 2f41.6534 2f42.6587 2f43.6597 2f44.65a4 2f45.65b9",
    "2f46.65e0 2f47.65e5 2f48.66f0 2f49.6708 2f4a.6728 2f4b.6b20 2f4c.6b62 2f4d.6b79 2f4e.6bb3",
    "2f4f.6bcb 2f50.6bd4 2f51.6bdb 2f52.6c0f 2f53.6c14 2f54.6c34 2f55.706b 2f56.722a 2f57.7236",
    "2f58.723b 2f59.723f 2f5a.7247 2f5b.7259 2f5c.725b 2f5d.72ac 2f5e.7384 2f5f.7389 2f60.74dc",
    "2f61.74e6 2f62.7518 2f63.751f 2f64.7528 2f65.7530 2f66.758b 2f67.7592 2f68.7676 2f69.767d",
    "2f6a.76ae 2f6b.76bf 2f6c.76ee 2f6d.77db 2f6e.77e2 2f6f.77f3 2f70.793a 2f71.79b8 2f72.79be",
    "2f73.7a74 2f74.7acb 2f75.7af9 2f76.7c73 2f77.7cf8 2f78.7f36 2f79.7f51 2f7a.7f8a 2f7b.7fbd",
    "2f7c.8001 2f7d.800c 2f7e.8012 2f7f.8033 2f80.807f 2f81.8089 2f82.81e3 2f83.81ea 2f84.81f3",
    "2f85.81fc 2f86.820c 2f87.821b 2f88.821f 2f89.826e 2f8a.8272 2f8b.8278 2f8c.864d 2f8d.866b",
    "2f8e.8840 2f8f.884c 2f90.8863 2f91.897e 2f92.898b 2f93.89d2 2f94.8a00 2f95.8c37 2f96.8c46",
    "2f97.8c55 2f98.8c78 2f99.8c9d 2f9a.8d64 2f9b.8d70 2f9c.8db3 2f9d.8eab 2f9e.8eca 2f9f.8f9b",
    "2fa0.8fb0 2fa1.8fb5 2fa2.9091 2fa3.9149 2fa4.91c6 2fa5.91cc 2fa6.91d1 2fa7.9577 2fa8.9580",
    "2fa9.961c 2faa.96b6 2fab.96b9 2fac.96e8 2fad.9751 2fae.975e 2faf.9762 2fb0.9769 2fb1.97cb",
    "2fb2.97ed 2fb3.97f3 2fb4.9801 2fb5.98a8 2fb6.98db 2fb7.98df 2fb8.9996 2fb9.9999 2fba.99ac",
    "2fbb.9aa8 2fbc.9ad8 2fbd.9adf 2fbe.9b25 2fbf.9b2f 2fc0.9b32 2fc1.9b3c 2fc2.9b5a 2fc3.9ce5",
    "2fc4.9e75 2fc5.9e7f 2fc6.9ea5 2fc7.9ebb 2fc8.9ec3 2fc9.9ecd 2fca.9ed1 2fcb.9ef9 2fcc.9efd",
    "2fcd.9f0e 2fce.9f13 2fcf.9f20 2fd0.9f3b 2fd1.9f4a 2fd2.9f52 2fd3.9f8d 2fd4.9f9c 2fd5.9fa0",
    "3000.20 3002.2e 3036.3012 3038.5341 3039.5344.2 3131.1100.2 3133.11aa.2.2.2 3134.1102",
    "3136.11ad 3137.1103.3 313a.11b0.6 3140.111a 3141.1106.3 3144.1121 3145.1109.a 314f.1161.15",
    "3165.1114.2 3167.11c7.2 3169.11cc 316a.11ce 316b.11d3 316c.11d7 316d.11d9 316e.111c",
    "316f.11dd 3170.11df 3171.111d.2 3173.1120 3174.1122.2 3176.1127 3177.1129 3178.112b.5",
    "317d.1132 317e.1136 317f.1140 3180.1147 3181.114c 3182.11f1.2 3184.1157.3 3187.1184.2",
    "3189.1188 318a.1191.2 318c.1194 318d.119e 318e.11a1 3192.4e00 3193.4e8c 3194.4e09 3195.56db",
    "3196.4e0a 3197.4e2d 3198.4e0b 3199.7532 319a.4e59 319b.4e19 319c.4e01 319d.5929 319e.5730",
    "319f.4eba 3244.554f 3245.5e7c 3246.6587 3247.7b8f 3260.1100 3261.1102.2 3263.1105.3",
    "3266.1109 3267.110b.2 3269.110e.5 326e.ac00 326f.b098 3270.b2e4 3271.b77c 3272.b9c8",
    "3273.bc14 3274.c0ac 3275.c544 3276.c790 3277.cc28 3278.ce74 3279.d0c0 327a.d30c 327b.d558",
    "327e.c6b0 3280.4e00 3281.4e8c 3282.4e09 3283.56db 3284.4e94 3285.516d 3286.4e03 3287.516b",
    "3288.4e5d 3289.5341 328a.6708 328b.706b 328c.6c34 328d.6728 328e.91d1 328f.571f 3290.65e5",
    "3291.682a 3292.6709 3293.793e 3294.540d 3295.7279 3296.8ca1 3297.795d 3298.52b4 3299.79d8",
    "329a.7537 329b.5973 329c.9069 329d.512a 329e.5370 329f.6ce8 32a0.9805 32a1.4f11 32a2.5199",
    "32a3.6b63 32a4.4e0a 32a5.4e2d 32a6.4e0b 32a7.5de6 32a8.53f3 32a9.533b 32aa.5b97 32ab.5b66",
    "32ac.76e3 32ad.4f01 32ae.8cc7 32af.5354 32b0.591c 32d0.30a2 32d1.30a4 32d2.30a6 32d3.30a8",
    "32d4.30aa.2 32d6.30ad 32d7.30af 32d8.30b1 32d9.30b3 32da.30b5 32db.30b7 32dc.30b9 32dd.30bb",
    "32de.30bd 32df.30bf 32e0.30c1 32e1.30c4 32e2.30c6 32e3.30c8 32e4.30ca.6 32ea.30d2 32eb.30d5",
    "32ec.30d8 32ed.30db 32ee.30de.5 32f3.30e4 32f4.30e6 32f5.30e8.6 32fb.30ef.4",
    "a640.a641.17.2.2 a680.a681.e.2.2 a69c.44a a69d.44c a722.a723.7.2.2 a732.a733.1f.2.2",
    "a770.a76f a779.a77a.2.2.2 a77d.1d79 a77e.a77f.5.2.2 a78b.a78c a78d.265 a790.a791.2.2.2",
    "a796.a797.a.2.2 a7aa.266 a7ab.25c a7ac.261 a7ad.26c a7ae.26a a7b0.29e a7b1.287 a7b2.29d",
    "a7b3.ab53 a7b4.a7b5.8.2.2 a7c4.a794 a7c5.282 a7c6.1d8e a7c7.a7c8.2.2.2 a7cb.264",
    "a7cc.a7cd.8.2.2 a7dc.19b a7f1.73 a7f2.63 a7f3.66 a7f4.71 a7f5.a7f6 a7f8.127 a7f9.153",
    "ab5c.a727 ab5d.ab37 ab5e.26b ab5f.ab52 ab69.28d ab70.13a0.50 fb20.5e2 fb21.5d0 fb22.5d3.2",
    "fb24.5db.3 fb27.5e8 fb28.5ea fb29.2b fb50.671.2.1.0 fb52.67b.4.1.0 fb56.67e.4.1.0",
    "fb5a.680.4.1.0 fb5e.67a.4.1.0 fb62.67f.4.1.0 fb66.679.4.1.0 fb6a.6a4.4.1.0 fb6e.6a6.4.1.0",
    "fb72.684.4.1.0 fb76.683.4.1.0 fb7a.686.4.1.0 fb7e.687.4.1.0 fb82.68d.2.1.0 fb84.68c.2.1.0",
    "fb86.68e.2.1.0 fb88.688.2.1.0 fb8a.698.2.1.0 fb8c.691.2.1.0 fb8e.6a9.4.1.0 fb92.6af.4.1.0",
    "fb96.6b3.4.1.0 fb9a.6b1.4.1.0 fb9e.6ba.2.1.0 fba0.6bb.4.1.0 fba4.6c0.2.1.0 fba6.6c1.4.1.0",
    "fbaa.6be.4.1.0 fbae.6d2.2.1.0 fbb0.6d3.2.1.0 fbd3.6ad.4.1.0 fbd7.6c7.2.1.0 fbd9.6c6.2.1.0",
    "fbdb.6c8.2.1.0 fbde.6cb.2.1.0 fbe0.6c5.2.1.0 fbe2.6c9.2.1.0 fbe4.6d0.4.1.0 fbe8.649.2.1.0",
    "fbfc.6cc.4.1.0 fe10.2c fe11.3001 fe13.3a.2 fe15.21 fe16.3f fe17.3016.2 fe31.2014 fe32.2013",
    "fe33.5f.2.1.0 fe35.28.2 fe37.7b fe38.7d fe39.3014.2 fe3b.3010.2 fe3d.300a.2 fe3f.3008.2",
    "fe41.300c.4 fe47.5b fe48.5d fe4d.5f.3.1.0 fe50.2c fe51.3001 fe54.3b fe55.3a fe56.3f fe57.21",
    "fe58.2014 fe59.28.2 fe5b.7b fe5c.7d fe5d.3014.2 fe5f.23 fe60.26 fe61.2a.2 fe63.2d fe64.3c",
    "fe65.3e fe66.3d fe68.5c fe69.24.2 fe6b.40 fe80.621.2 fe82.622.2 fe84.623.2 fe86.624.2",
    "fe88.625.2 fe8a.626.3.1.0 fe8d.627.2.1.0 fe8f.628.4.1.0 fe93.629.2.1.0 fe95.62a.4.1.0",
    "fe99.62b.4.1.0 fe9d.62c.4.1.0 fea1.62d.4.1.0 fea5.62e.4.1.0 fea9.62f.2.1.0 feab.630.2.1.0",
    "fead.631.2.1.0 feaf.632.2.1.0 feb1.633.4.1.0 feb5.634.4.1.0 feb9.635.4.1.0 febd.636.4.1.0",
    "fec1.637.4.1.0 fec5.638.4.1.0 fec9.639.4.1.0 fecd.63a.4.1.0 fed1.641.4.1.0 fed5.642.4.1.0",
    "fed9.643.4.1.0 fedd.644.4.1.0 fee1.645.4.1.0 fee5.646.4.1.0 fee9.647.4.1.0 feed.648.2.1.0",
    "feef.649.2.1.0 fef1.64a.4.1.0 ff01.21.20 ff21.61.1a ff3b.5b.24 ff5f.2985.2 ff61.2e",
    "ff62.300c.2 ff64.3001 ff65.30fb ff66.30f2 ff67.30a1 ff68.30a3 ff69.30a5 ff6a.30a7 ff6b.30a9",
    "ff6c.30e3 ff6d.30e5 ff6e.30e7 ff6f.30c3 ff70.30fc ff71.30a2 ff72.30a4 ff73.30a6 ff74.30a8",
    "ff75.30aa.2 ff77.30ad ff78.30af ff79.30b1 ff7a.30b3 ff7b.30b5 ff7c.30b7 ff7d.30b9 ff7e.30bb",
    "ff7f.30bd ff80.30bf ff81.30c1 ff82.30c4 ff83.30c6 ff84.30c8 ff85.30ca.6 ff8b.30d2 ff8c.30d5",
    "ff8d.30d8 ff8e.30db ff8f.30de.5 ff94.30e4 ff95.30e6 ff96.30e8.6 ff9c.30ef ff9d.30f3",
    "ff9e.3099.2 ffa1.1100.2 ffa3.11aa.2.2.2 ffa4.1102 ffa6.11ad ffa7.1103.3 ffaa.11b0.6",
    "ffb0.111a ffb1.1106.3 ffb4.1121 ffb5.1109.a ffc2.1161.6 ffca.1167.6 ffd2.116d.6 ffda.1173.3",
    "ffe0.a2.2 ffe2.ac ffe4.a6 ffe5.a5 ffe6.20a9 ffe8.2502 ffe9.2190.4 ffed.25a0 ffee.25cb",
    "10400.10428.28 104b0.104d8.24 10570.10597.13.2.2 10571.10598.5.2.2 1057d.105a4.7.2.2",
    "1058d.105b4.3.2.2 10595.105bc 10781.2d0.2 10783.e6 10784.299 10785.253 10787.2a3.2.2.2",
    "10788.ab66 1078a.2a4 1078b.256.2 1078d.1d91 1078e.258 1078f.25e 10790.2a9 10791.264",
    "10792.262 10793.260 10794.29b 10795.127 10796.29c 10797.267 10798.284 10799.2aa.2 1079b.26c",
    "1079c.1df04 1079d.a78e 1079e.26e 1079f.1df05 107a0.28e 107a1.1df06 107a2.f8 107a3.276.2",
    "107a5.71 107a6.27a 107a7.1df08 107a8.27d.2 107aa.280 107ab.2a8 107ac.2a6 107ad.ab67",
    "107ae.2a7 107af.288 107b0.2c71 107b2.28f 107b3.2a1.2 107b5.298 107b6.1c0.3 107b9.1df0a",
    "107ba.1df1e 10c80.10cc0.33 10d50.10d70.16 118a0.118c0.20 16e40.16e60.20 16ea0.16ebb.19",
    "1ccd6.61.1a 1ccf0.30.a 1d400.61.1a 1d41a.61.1a 1d434.61.1a 1d44e.61.d.2.2 1d44f.62.3.2.2",
    "1d457.6a.9.2.2 1d468.61.1a 1d482.61.1a 1d49c.61.2.2.2 1d49f.64 1d4a2.67 1d4a5.6a.2",
    "1d4a9.6e.4 1d4ae.73.8 1d4b6.61.4 1d4bb.66.b.2.2 1d4be.69.3.2.2 1d4c6.71.5.2.2 1d4d0.61.1a",
    "1d4ea.61.1a 1d504.61.2 1d507.64.4 1d50d.6a.8 1d516.73.7 1d51e.61.1a 1d538.61.2 1d53b.64.4",
    "1d540.69.5 1d546.6f 1d54a.73.7 1d552.61.1a 1d56c.61.1a 1d586.61.1a 1d5a0.61.1a 1d5ba.61.1a",
    "1d5d4.61.1a 1d5ee.61.1a 1d608.61.1a 1d622.61.1a 1d63c.61.1a 1d656.61.1a 1d670.61.1a",
    "1d68a.61.1a 1d6a4.131 1d6a5.237 1d6a8.3b1.11 1d6b9.3b8 1d6ba.3c3.7 1d6c1.2207 1d6c2.3b1.11",
    "1d6d3.3c3.2.1.0 1d6d5.3c4.6 1d6db.2202 1d6dc.3b5 1d6dd.3b8 1d6de.3ba 1d6df.3c6 1d6e0.3c1",
    "1d6e1.3c0 1d6e2.3b1.11 1d6f3.3b8 1d6f4.3c3.7 1d6fb.2207 1d6fc.3b1.11 1d70d.3c3.2.1.0",
    "1d70f.3c4.6 1d715.2202 1d716.3b5 1d717.3b8 1d718.3ba 1d719.3c6 1d71a.3c1 1d71b.3c0",
    "1d71c.3b1.11 1d72d.3b8 1d72e.3c3.7 1d735.2207 1d736.3b1.11 1d747.3c3.2.1.0 1d749.3c4.6",
    "1d74f.2202 1d750.3b5 1d751.3b8 1d752.3ba 1d753.3c6 1d754.3c1 1d755.3c0 1d756.3b1.11",
    "1d767.3b8 1d768.3c3.7 1d76f.2207 1d770.3b1.11 1d781.3c3.2.1.0 1d783.3c4.6 1d789.2202",
    "1d78a.3b5 1d78b.3b8 1d78c.3ba 1d78d.3c6 1d78e.3c1 1d78f.3c0 1d790.3b1.11 1d7a1.3b8",
    "1d7a2.3c3.7 1d7a9.2207 1d7aa.3b1.11 1d7bb.3c3.2.1.0 1d7bd.3c4.6 1d7c3.2202 1d7c4.3b5",
    "1d7c5.3b8 1d7c6.3ba 1d7c7.3c6 1d7c8.3c1 1d7c9.3c0 1d7ca.3dd.2.1.0 1d7ce.30.a 1d7d8.30.a",
    "1d7e2.30.a 1d7ec.30.a 1d7f6.30.a 1e030.430.9 1e039.43a.3 1e03c.43e.b 1e047.44b 1e048.44d.2",
    "1e04a.a689 1e04b.4d9 1e04c.456 1e04d.458 1e04e.4e9 1e04f.4af 1e050.4cf 1e051.430.9",
    "1e05a.43a.2 1e05c.43e.2 1e05e.441 1e05f.443.6 1e065.44a.2 1e067.491 1e068.456 1e069.455",
    "1e06a.45f 1e06b.4ab 1e06c.a651 1e06d.4b1 1e900.1e922.22 1ee00.627.2 1ee02.62c 1ee03.62f",
    "1ee05.648 1ee06.632 1ee07.62d 1ee08.637 1ee09.64a 1ee0a.643.4 1ee0e.633 1ee0f.639 1ee10.641",
    "1ee11.635 1ee12.642 1ee13.631 1ee14.634 1ee15.62a.2 1ee17.62e 1ee18.630 1ee19.636 1ee1a.638",
    "1ee1b.63a 1ee1c.66e 1ee1d.6ba 1ee1e.6a1 1ee1f.66f 1ee21.628 1ee22.62c 1ee24.647 1ee27.62d",
    "1ee29.64a 1ee2a.643.4 1ee2e.633 1ee2f.639 1ee30.641 1ee31.635 1ee32.642 1ee34.634",
    "1ee35.62a.2 1ee37.62e 1ee39.636 1ee3b.63a 1ee42.62c 1ee47.62d 1ee49.64a 1ee4b.644.2.2.2",
    "1ee4e.633 1ee4f.639 1ee51.635 1ee52.642 1ee54.634 1ee57.62e 1ee59.636 1ee5b.63a 1ee5d.6ba",
    "1ee5f.66f 1ee61.628 1ee62.62c 1ee64.647 1ee67.62d 1ee68.637 1ee69.64a 1ee6a.643.2.2.2",
    "1ee6d.646 1ee6e.633 1ee6f.639 1ee70.641 1ee71.635 1ee72.642 1ee74.634 1ee75.62a.2 1ee77.62e",
    "1ee79.636 1ee7a.638 1ee7b.63a 1ee7c.66e 1ee7e.6a1 1ee80.627.2 1ee82.62c 1ee83.62f",
    "1ee84.647.2 1ee86.632 1ee87.62d 1ee88.637 1ee89.64a 1ee8b.644.3 1ee8e.633 1ee8f.639",
    "1ee90.641 1ee91.635 1ee92.642 1ee93.631 1ee94.634 1ee95.62a.2 1ee97.62e 1ee98.630 1ee99.636",
    "1ee9a.638 1ee9b.63a 1eea1.628 1eea2.62c 1eea3.62f 1eea5.648 1eea6.632 1eea7.62d 1eea8.637",
    "1eea9.64a 1eeab.644.3 1eeae.633 1eeaf.639 1eeb0.641 1eeb1.635 1eeb2.642 1eeb3.631 1eeb4.634",
    "1eeb5.62a.2 1eeb7.62e 1eeb8.630 1eeb9.636 1eeba.638 1eebb.63a 1f12b.63 1f12c.72 1f130.61.1a",
    "1f202.30b5 1f210.624b 1f211.5b57 1f212.53cc 1f213.30c7 1f214.4e8c 1f215.591a 1f216.89e3",
    "1f217.5929 1f218.4ea4 1f219.6620 1f21a.7121 1f21b.6599 1f21c.524d 1f21d.5f8c 1f21e.518d",
    "1f21f.65b0 1f220.521d 1f221.7d42 1f222.751f 1f223.8ca9 1f224.58f0 1f225.5439 1f226.6f14",
    "1f227.6295 1f228.6355 1f229.4e00 1f22a.4e09 1f22b.904a 1f22c.5de6 1f22d.4e2d 1f22e.53f3",
    "1f22f.6307 1f230.8d70 1f231.6253 1f232.7981 1f233.7a7a 1f234.5408 1f235.6e80 1f236.6709",
    "1f237.6708 1f238.7533 1f239.5272 1f23a.55b6 1f23b.914d 1f250.5f97 1f251.53ef 1fbf0.30.a"]

/-- The code points that are replaced by a sequence: the code point and the sequence. -/
def expanded : List (List Nat) := records
   ["a8.20.308 af.20.304 b4.20.301 b8.20.327 bc.31.2044.34 bd.31.2044.32 be.33.2044.34",
    "130.69.307 132.69.6a 133.69.6a 13f.6c.b7 140.6c.b7 149.2bc.6e 1c4.64.17e 1c5.64.17e",
    "1c6.64.17e 1c7.6c.6a 1c8.6c.6a 1c9.6c.6a 1ca.6e.6a 1cb.6e.6a 1cc.6e.6a 1f1.64.7a 1f2.64.7a",
    "1f3.64.7a 2d8.20.306 2d9.20.307 2da.20.30a 2db.20.328 2dc.20.303 2dd.20.30b 37a.20.3b9",
    "384.20.301 385.20.308.301 587.565.582 675.627.674 676.648.674 677.6c7.674 678.64a.674",
    "e33.e4d.e32 eb3.ecd.eb2 edc.eab.e99 edd.eab.ea1 f77.fb2.f71.f80 f79.fb3.f71.f80 1e9a.61.2be",
    "1f80.1f00.3b9 1f81.1f01.3b9 1f82.1f02.3b9 1f83.1f03.3b9 1f84.1f04.3b9 1f85.1f05.3b9",
    "1f86.1f06.3b9 1f87.1f07.3b9 1f88.1f00.3b9 1f89.1f01.3b9 1f8a.1f02.3b9 1f8b.1f03.3b9",
    "1f8c.1f04.3b9 1f8d.1f05.3b9 1f8e.1f06.3b9 1f8f.1f07.3b9 1f90.1f20.3b9 1f91.1f21.3b9",
    "1f92.1f22.3b9 1f93.1f23.3b9 1f94.1f24.3b9 1f95.1f25.3b9 1f96.1f26.3b9 1f97.1f27.3b9",
    "1f98.1f20.3b9 1f99.1f21.3b9 1f9a.1f22.3b9 1f9b.1f23.3b9 1f9c.1f24.3b9 1f9d.1f25.3b9",
    "1f9e.1f26.3b9 1f9f.1f27.3b9 1fa0.1f60.3b9 1fa1.1f61.3b9 1fa2.1f62.3b9 1fa3.1f63.3b9",
    "1fa4.1f64.3b9 1fa5.1f65.3b9 1fa6.1f66.3b9 1fa7.1f67.3b9 1fa8.1f60.3b9 1fa9.1f61.3b9",
    "1faa.1f62.3b9 1fab.1f63.3b9 1fac.1f64.3b9 1fad.1f65.3b9 1fae.1f66.3b9 1faf.1f67.3b9",
    "1fb2.1f70.3b9 1fb3.3b1.3b9 1fb4.3ac.3b9 1fb7.1fb6.3b9 1fbc.3b1.3b9 1fbd.20.313 1fbf.20.313",
    "1fc0.20.342 1fc1.20.308.342 1fc2.1f74.3b9 1fc3.3b7.3b9 1fc4.3ae.3b9 1fc7.1fc6.3b9",
    "1fcc.3b7.3b9 1fcd.20.313.300 1fce.20.313.301 1fcf.20.313.342 1fdd.20.314.300",
    "1fde.20.314.301 1fdf.20.314.342 1fed.20.308.300 1fee.20.308.301 1ff2.1f7c.3b9 1ff3.3c9.3b9",
    "1ff4.3ce.3b9 1ff7.1ff6.3b9 1ffc.3c9.3b9 1ffd.20.301 1ffe.20.314 2017.20.333 2033.2032.2032",
    "2034.2032.2032.2032 2036.2035.2035 2037.2035.2035.2035 203c.21.21 203e.20.305 2047.3f.3f",
    "2048.3f.21 2049.21.3f 2057.2032.2032.2032.2032 20a8.72.73 2100.61.2f.63 2101.61.2f.73",
    "2103.b0.63 2105.63.2f.6f 2106.63.2f.75 2109.b0.66 2116.6e.6f 2120.73.6d 2121.74.65.6c",
    "2122.74.6d 213b.66.61.78 2150.31.2044.37 2151.31.2044.39 2152.31.2044.31.30 2153.31.2044.33",
    "2154.32.2044.33 2155.31.2044.35 2156.32.2044.35 2157.33.2044.35 2158.34.2044.35",
    "2159.31.2044.36 215a.35.2044.36 215b.31.2044.38 215c.33.2044.38 215d.35.2044.38",
    "215e.37.2044.38 215f.31.2044 2161.69.69 2162.69.69.69 2163.69.76 2165.76.69 2166.76.69.69",
    "2167.76.69.69.69 2168.69.78 216a.78.69 216b.78.69.69 2171.69.69 2172.69.69.69 2173.69.76",
    "2175.76.69 2176.76.69.69 2177.76.69.69.69 2178.69.78 217a.78.69 217b.78.69.69",
    "2189.30.2044.33 222c.222b.222b 222d.222b.222b.222b 222f.222e.222e 2230.222e.222e.222e",
    "2469.31.30 246a.31.31 246b.31.32 246c.31.33 246d.31.34 246e.31.35 246f.31.36 2470.31.37",
    "2471.31.38 2472.31.39 2473.32.30 2474.28.31.29 2475.28.32.29 2476.28.33.29 2477.28.34.29",
    "2478.28.35.29 2479.28.36.29 247a.28.37.29 247b.28.38.29 247c.28.39.29 247d.28.31.30.29",
    "247e.28.31.31.29 247f.28.31.32.29 2480.28.31.33.29 2481.28.31.34.29 2482.28.31.35.29",
    "2483.28.31.36.29 2484.28.31.37.29 2485.28.31.38.29 2486.28.31.39.29 2487.28.32.30.29",
    "249c.28.61.29 249d.28.62.29 249e.28.63.29 249f.28.64.29 24a0.28.65.29 24a1.28.66.29",
    "24a2.28.67.29 24a3.28.68.29 24a4.28.69.29 24a5.28.6a.29 24a6.28.6b.29 24a7.28.6c.29",
    "24a8.28.6d.29 24a9.28.6e.29 24aa.28.6f.29 24ab.28.70.29 24ac.28.71.29 24ad.28.72.29",
    "24ae.28.73.29 24af.28.74.29 24b0.28.75.29 24b1.28.76.29 24b2.28.77.29 24b3.28.78.29",
    "24b4.28.79.29 24b5.28.7a.29 2a0c.222b.222b.222b.222b 2a74.3a.3a.3d 2a75.3d.3d 2a76.3d.3d.3d",
    "309b.20.3099 309c.20.309a 309f.3088.308a 30ff.30b3.30c8 3200.28.1100.29 3201.28.1102.29",
    "3202.28.1103.29 3203.28.1105.29 3204.28.1106.29 3205.28.1107.29 3206.28.1109.29",
    "3207.28.110b.29 3208.28.110c.29 3209.28.110e.29 320a.28.110f.29 320b.28.1110.29",
    "320c.28.1111.29 320d.28.1112.29 320e.28.ac00.29 320f.28.b098.29 3210.28.b2e4.29",
    "3211.28.b77c.29 3212.28.b9c8.29 3213.28.bc14.29 3214.28.c0ac.29 3215.28.c544.29",
    "3216.28.c790.29 3217.28.cc28.29 3218.28.ce74.29 3219.28.d0c0.29 321a.28.d30c.29",
    "321b.28.d558.29 321c.28.c8fc.29 321d.28.c624.c804.29 321e.28.c624.d6c4.29 3220.28.4e00.29",
    "3221.28.4e8c.29 3222.28.4e09.29 3223.28.56db.29 3224.28.4e94.29 3225.28.516d.29",
    "3226.28.4e03.29 3227.28.516b.29 3228.28.4e5d.29 3229.28.5341.29 322a.28.6708.29",
    "322b.28.706b.29 322c.28.6c34.29 322d.28.6728.29 322e.28.91d1.29 322f.28.571f.29",
    "3230.28.65e5.29 3231.28.682a.29 3232.28.6709.29 3233.28.793e.29 3234.28.540d.29",
    "3235.28.7279.29 3236.28.8ca1.29 3237.28.795d.29 3238.28.52b4.29 3239.28.4ee3.29",
    "323a.28.547c.29 323b.28.5b66.29 323c.28.76e3.29 323d.28.4f01.29 323e.28.8cc7.29",
    "323f.28.5354.29 3240.28.796d.29 3241.28.4f11.29 3242.28.81ea.29 3243.28.81f3.29",
    "3250.70.74.65 3251.32.31 3252.32.32 3253.32.33 3254.32.34 3255.32.35 3256.32.36 3257.32.37",
    "3258.32.38 3259.32.39 325a.33.30 325b.33.31 325c.33.32 325d.33.33 325e.33.34 325f.33.35",
    "327c.cc38.ace0 327d.c8fc.c758 32b1.33.36 32b2.33.37 32b3.33.38 32b4.33.39 32b5.34.30",
    "32b6.34.31 32b7.34.32 32b8.34.33 32b9.34.34 32ba.34.35 32bb.34.36 32bc.34.37 32bd.34.38",
    "32be.34.39 32bf.35.30 32c0.31.6708 32c1.32.6708 32c2.33.6708 32c3.34.6708 32c4.35.6708",
    "32c5.36.6708 32c6.37.6708 32c7.38.6708 32c8.39.6708 32c9.31.30.6708 32ca.31.31.6708",
    "32cb.31.32.6708 32cc.68.67 32cd.65.72.67 32ce.65.76 32cf.6c.74.64 32ff.4ee4.548c",
    "3300.30a2.30d1.30fc.30c8 3301.30a2.30eb.30d5.30a1 3302.30a2.30f3.30da.30a2",
    "3303.30a2.30fc.30eb 3304.30a4.30cb.30f3.30b0 3305.30a4.30f3.30c1 3306.30a6.30a9.30f3",
    "3307.30a8.30b9.30af.30fc.30c9 3308.30a8.30fc.30ab.30fc 3309.30aa.30f3.30b9",
    "330a.30aa.30fc.30e0 330b.30ab.30a4.30ea 330c.30ab.30e9.30c3.30c8 330d.30ab.30ed.30ea.30fc",
    "330e.30ac.30ed.30f3 330f.30ac.30f3.30de 3310.30ae.30ac 3311.30ae.30cb.30fc",
    "3312.30ad.30e5.30ea.30fc 3313.30ae.30eb.30c0.30fc 3314.30ad.30ed",
    "3315.30ad.30ed.30b0.30e9.30e0 3316.30ad.30ed.30e1.30fc.30c8.30eb",
    "3317.30ad.30ed.30ef.30c3.30c8 3318.30b0.30e9.30e0 3319.30b0.30e9.30e0.30c8.30f3",
    "331a.30af.30eb.30bc.30a4.30ed 331b.30af.30ed.30fc.30cd 331c.30b1.30fc.30b9",
    "331d.30b3.30eb.30ca 331e.30b3.30fc.30dd 331f.30b5.30a4.30af.30eb",
    "3320.30b5.30f3.30c1.30fc.30e0 3321.30b7.30ea.30f3.30b0 3322.30bb.30f3.30c1",
    "3323.30bb.30f3.30c8 3324.30c0.30fc.30b9 3325.30c7.30b7 3326.30c9.30eb 3327.30c8.30f3",
    "3328.30ca.30ce 3329.30ce.30c3.30c8 332a.30cf.30a4.30c4 332b.30d1.30fc.30bb.30f3.30c8",
    "332c.30d1.30fc.30c4 332d.30d0.30fc.30ec.30eb 332e.30d4.30a2.30b9.30c8.30eb",
    "332f.30d4.30af.30eb 3330.30d4.30b3 3331.30d3.30eb 3332.30d5.30a1.30e9.30c3.30c9",
    "3333.30d5.30a3.30fc.30c8 3334.30d6.30c3.30b7.30a7.30eb 3335.30d5.30e9.30f3",
    "3336.30d8.30af.30bf.30fc.30eb 3337.30da.30bd 3338.30da.30cb.30d2 3339.30d8.30eb.30c4",
    "333a.30da.30f3.30b9 333b.30da.30fc.30b8 333c.30d9.30fc.30bf 333d.30dd.30a4.30f3.30c8",
    "333e.30dc.30eb.30c8 333f.30db.30f3 3340.30dd.30f3.30c9 3341.30db.30fc.30eb",
    "3342.30db.30fc.30f3 3343.30de.30a4.30af.30ed 3344.30de.30a4.30eb 3345.30de.30c3.30cf",
    "3346.30de.30eb.30af 3347.30de.30f3.30b7.30e7.30f3 3348.30df.30af.30ed.30f3 3349.30df.30ea",
    "334a.30df.30ea.30d0.30fc.30eb 334b.30e1.30ac 334c.30e1.30ac.30c8.30f3",
    "334d.30e1.30fc.30c8.30eb 334e.30e4.30fc.30c9 334f.30e4.30fc.30eb 3350.30e6.30a2.30f3",
    "3351.30ea.30c3.30c8.30eb 3352.30ea.30e9 3353.30eb.30d4.30fc 3354.30eb.30fc.30d6.30eb",
    "3355.30ec.30e0 3356.30ec.30f3.30c8.30b2.30f3 3357.30ef.30c3.30c8 3358.30.70b9 3359.31.70b9",
    "335a.32.70b9 335b.33.70b9 335c.34.70b9 335d.35.70b9 335e.36.70b9 335f.37.70b9 3360.38.70b9",
    "3361.39.70b9 3362.31.30.70b9 3363.31.31.70b9 3364.31.32.70b9 3365.31.33.70b9",
    "3366.31.34.70b9 3367.31.35.70b9 3368.31.36.70b9 3369.31.37.70b9 336a.31.38.70b9",
    "336b.31.39.70b9 336c.32.30.70b9 336d.32.31.70b9 336e.32.32.70b9 336f.32.33.70b9",
    "3370.32.34.70b9 3371.68.70.61 3372.64.61 3373.61.75 3374.62.61.72 3375.6f.76 3376.70.63",
    "3377.64.6d 3378.64.6d.32 3379.64.6d.33 337a.69.75 337b.5e73.6210 337c.662d.548c",
    "337d.5927.6b63 337e.660e.6cbb 337f.682a.5f0f.4f1a.793e 3380.70.61 3381.6e.61 3382.3bc.61",
    "3383.6d.61 3384.6b.61 3385.6b.62 3386.6d.62 3387.67.62 3388.63.61.6c 3389.6b.63.61.6c",
    "338a.70.66 338b.6e.66 338c.3bc.66 338d.3bc.67 338e.6d.67 338f.6b.67 3390.68.7a",
    "3391.6b.68.7a 3392.6d.68.7a 3393.67.68.7a 3394.74.68.7a 3395.3bc.6c 3396.6d.6c 3397.64.6c",
    "3398.6b.6c 3399.66.6d 339a.6e.6d 339b.3bc.6d 339c.6d.6d 339d.63.6d 339e.6b.6d 339f.6d.6d.32",
    "33a0.63.6d.32 33a1.6d.32 33a2.6b.6d.32 33a3.6d.6d.33 33a4.63.6d.33 33a5.6d.33 33a6.6b.6d.33",
    "33a7.6d.2215.73 33a8.6d.2215.73.32 33a9.70.61 33aa.6b.70.61 33ab.6d.70.61 33ac.67.70.61",
    "33ad.72.61.64 33ae.72.61.64.2215.73 33af.72.61.64.2215.73.32 33b0.70.73 33b1.6e.73",
    "33b2.3bc.73 33b3.6d.73 33b4.70.76 33b5.6e.76 33b6.3bc.76 33b7.6d.76 33b8.6b.76 33b9.6d.76",
    "33ba.70.77 33bb.6e.77 33bc.3bc.77 33bd.6d.77 33be.6b.77 33bf.6d.77 33c0.6b.3c9 33c1.6d.3c9",
    "33c3.62.71 33c4.63.63 33c5.63.64 33c6.63.2215.6b.67 33c8.64.62 33c9.67.79 33ca.68.61",
    "33cb.68.70 33cc.69.6e 33cd.6b.6b 33ce.6b.6d 33cf.6b.74 33d0.6c.6d 33d1.6c.6e 33d2.6c.6f.67",
    "33d3.6c.78 33d4.6d.62 33d5.6d.69.6c 33d6.6d.6f.6c 33d7.70.68 33d9.70.70.6d 33da.70.72",
    "33db.73.72 33dc.73.76 33dd.77.62 33de.76.2215.6d 33df.61.2215.6d 33e0.31.65e5 33e1.32.65e5",
    "33e2.33.65e5 33e3.34.65e5 33e4.35.65e5 33e5.36.65e5 33e6.37.65e5 33e7.38.65e5 33e8.39.65e5",
    "33e9.31.30.65e5 33ea.31.31.65e5 33eb.31.32.65e5 33ec.31.33.65e5 33ed.31.34.65e5",
    "33ee.31.35.65e5 33ef.31.36.65e5 33f0.31.37.65e5 33f1.31.38.65e5 33f2.31.39.65e5",
    "33f3.32.30.65e5 33f4.32.31.65e5 33f5.32.32.65e5 33f6.32.33.65e5 33f7.32.34.65e5",
    "33f8.32.35.65e5 33f9.32.36.65e5 33fa.32.37.65e5 33fb.32.38.65e5 33fc.32.39.65e5",
    "33fd.33.30.65e5 33fe.33.31.65e5 33ff.67.61.6c fb00.66.66 fb01.66.69 fb02.66.6c",
    "fb03.66.66.69 fb04.66.66.6c fb05.73.74 fb06.73.74 fb13.574.576 fb14.574.565 fb15.574.56b",
    "fb16.57e.576 fb17.574.56d fb4f.5d0.5dc fbdd.6c7.674 fbea.626.627 fbeb.626.627 fbec.626.6d5",
    "fbed.626.6d5 fbee.626.648 fbef.626.648 fbf0.626.6c7 fbf1.626.6c7 fbf2.626.6c6 fbf3.626.6c6",
    "fbf4.626.6c8 fbf5.626.6c8 fbf6.626.6d0 fbf7.626.6d0 fbf8.626.6d0 fbf9.626.649 fbfa.626.649",
    "fbfb.626.649 fc00.626.62c fc01.626.62d fc02.626.645 fc03.626.649 fc04.626.64a fc05.628.62c",
    "fc06.628.62d fc07.628.62e fc08.628.645 fc09.628.649 fc0a.628.64a fc0b.62a.62c fc0c.62a.62d",
    "fc0d.62a.62e fc0e.62a.645 fc0f.62a.649 fc10.62a.64a fc11.62b.62c fc12.62b.645 fc13.62b.649",
    "fc14.62b.64a fc15.62c.62d fc16.62c.645 fc17.62d.62c fc18.62d.645 fc19.62e.62c fc1a.62e.62d",
    "fc1b.62e.645 fc1c.633.62c fc1d.633.62d fc1e.633.62e fc1f.633.645 fc20.635.62d fc21.635.645",
    "fc22.636.62c fc23.636.62d fc24.636.62e fc25.636.645 fc26.637.62d fc27.637.645 fc28.638.645",
    "fc29.639.62c fc2a.639.645 fc2b.63a.62c fc2c.63a.645 fc2d.641.62c fc2e.641.62d fc2f.641.62e",
    "fc30.641.645 fc31.641.649 fc32.641.64a fc33.642.62d fc34.642.645 fc35.642.649 fc36.642.64a",
    "fc37.643.627 fc38.643.62c fc39.643.62d fc3a.643.62e fc3b.643.644 fc3c.643.645 fc3d.643.649",
    "fc3e.643.64a fc3f.644.62c fc40.644.62d fc41.644.62e fc42.644.645 fc43.644.649 fc44.644.64a",
    "fc45.645.62c fc46.645.62d fc47.645.62e fc48.645.645 fc49.645.649 fc4a.645.64a fc4b.646.62c",
    "fc4c.646.62d fc4d.646.62e fc4e.646.645 fc4f.646.649 fc50.646.64a fc51.647.62c fc52.647.645",
    "fc53.647.649 fc54.647.64a fc55.64a.62c fc56.64a.62d fc57.64a.62e fc58.64a.645 fc59.64a.649",
    "fc5a.64a.64a fc5b.630.670 fc5c.631.670 fc5d.649.670 fc5e.20.64c.651 fc5f.20.64d.651",
    "fc60.20.64e.651 fc61.20.64f.651 fc62.20.650.651 fc63.20.651.670 fc64.626.631 fc65.626.632",
    "fc66.626.645 fc67.626.646 fc68.626.649 fc69.626.64a fc6a.628.631 fc6b.628.632 fc6c.628.645",
    "fc6d.628.646 fc6e.628.649 fc6f.628.64a fc70.62a.631 fc71.62a.632 fc72.62a.645 fc73.62a.646",
    "fc74.62a.649 fc75.62a.64a fc76.62b.631 fc77.62b.632 fc78.62b.645 fc79.62b.646 fc7a.62b.649",
    "fc7b.62b.64a fc7c.641.649 fc7d.641.64a fc7e.642.649 fc7f.642.64a fc80.643.627 fc81.643.644",
    "fc82.643.645 fc83.643.649 fc84.643.64a fc85.644.645 fc86.644.649 fc87.644.64a fc88.645.627",
    "fc89.645.645 fc8a.646.631 fc8b.646.632 fc8c.646.645 fc8d.646.646 fc8e.646.649 fc8f.646.64a",
    "fc90.649.670 fc91.64a.631 fc92.64a.632 fc93.64a.645 fc94.64a.646 fc95.64a.649 fc96.64a.64a",
    "fc97.626.62c fc98.626.62d fc99.626.62e fc9a.626.645 fc9b.626.647 fc9c.628.62c fc9d.628.62d",
    "fc9e.628.62e fc9f.628.645 fca0.628.647 fca1.62a.62c fca2.62a.62d fca3.62a.62e fca4.62a.645",
    "fca5.62a.647 fca6.62b.645 fca7.62c.62d fca8.62c.645 fca9.62d.62c fcaa.62d.645 fcab.62e.62c",
    "fcac.62e.645 fcad.633.62c fcae.633.62d fcaf.633.62e fcb0.633.645 fcb1.635.62d fcb2.635.62e",
    "fcb3.635.645 fcb4.636.62c fcb5.636.62d fcb6.636.62e fcb7.636.645 fcb8.637.62d fcb9.638.645",
    "fcba.639.62c fcbb.639.645 fcbc.63a.62c fcbd.63a.645 fcbe.641.62c fcbf.641.62d fcc0.641.62e",
    "fcc1.641.645 fcc2.642.62d fcc3.642.645 fcc4.643.62c fcc5.643.62d fcc6.643.62e fcc7.643.644",
    "fcc8.643.645 fcc9.644.62c fcca.644.62d fccb.644.62e fccc.644.645 fccd.644.647 fcce.645.62c",
    "fccf.645.62d fcd0.645.62e fcd1.645.645 fcd2.646.62c fcd3.646.62d fcd4.646.62e fcd5.646.645",
    "fcd6.646.647 fcd7.647.62c fcd8.647.645 fcd9.647.670 fcda.64a.62c fcdb.64a.62d fcdc.64a.62e",
    "fcdd.64a.645 fcde.64a.647 fcdf.626.645 fce0.626.647 fce1.628.645 fce2.628.647 fce3.62a.645",
    "fce4.62a.647 fce5.62b.645 fce6.62b.647 fce7.633.645 fce8.633.647 fce9.634.645 fcea.634.647",
    "fceb.643.644 fcec.643.645 fced.644.645 fcee.646.645 fcef.646.647 fcf0.64a.645 fcf1.64a.647",
    "fcf2.640.64e.651 fcf3.640.64f.651 fcf4.640.650.651 fcf5.637.649 fcf6.637.64a fcf7.639.649",
    "fcf8.639.64a fcf9.63a.649 fcfa.63a.64a fcfb.633.649 fcfc.633.64a fcfd.634.649 fcfe.634.64a",
    "fcff.62d.649 fd00.62d.64a fd01.62c.649 fd02.62c.64a fd03.62e.649 fd04.62e.64a fd05.635.649",
    "fd06.635.64a fd07.636.649 fd08.636.64a fd09.634.62c fd0a.634.62d fd0b.634.62e fd0c.634.645",
    "fd0d.634.631 fd0e.633.631 fd0f.635.631 fd10.636.631 fd11.637.649 fd12.637.64a fd13.639.649",
    "fd14.639.64a fd15.63a.649 fd16.63a.64a fd17.633.649 fd18.633.64a fd19.634.649 fd1a.634.64a",
    "fd1b.62d.649 fd1c.62d.64a fd1d.62c.649 fd1e.62c.64a fd1f.62e.649 fd20.62e.64a fd21.635.649",
    "fd22.635.64a fd23.636.649 fd24.636.64a fd25.634.62c fd26.634.62d fd27.634.62e fd28.634.645",
    "fd29.634.631 fd2a.633.631 fd2b.635.631 fd2c.636.631 fd2d.634.62c fd2e.634.62d fd2f.634.62e",
    "fd30.634.645 fd31.633.647 fd32.634.647 fd33.637.645 fd34.633.62c fd35.633.62d fd36.633.62e",
    "fd37.634.62c fd38.634.62d fd39.634.62e fd3a.637.645 fd3b.638.645 fd3c.627.64b fd3d.627.64b",
    "fd50.62a.62c.645 fd51.62a.62d.62c fd52.62a.62d.62c fd53.62a.62d.645 fd54.62a.62e.645",
    "fd55.62a.645.62c fd56.62a.645.62d fd57.62a.645.62e fd58.62c.645.62d fd59.62c.645.62d",
    "fd5a.62d.645.64a fd5b.62d.645.649 fd5c.633.62d.62c fd5d.633.62c.62d fd5e.633.62c.649",
    "fd5f.633.645.62d fd60.633.645.62d fd61.633.645.62c fd62.633.645.645 fd63.633.645.645",
    "fd64.635.62d.62d fd65.635.62d.62d fd66.635.645.645 fd67.634.62d.645 fd68.634.62d.645",
    "fd69.634.62c.64a fd6a.634.645.62e fd6b.634.645.62e fd6c.634.645.645 fd6d.634.645.645",
    "fd6e.636.62d.649 fd6f.636.62e.645 fd70.636.62e.645 fd71.637.645.62d fd72.637.645.62d",
    "fd73.637.645.645 fd74.637.645.64a fd75.639.62c.645 fd76.639.645.645 fd77.639.645.645",
    "fd78.639.645.649 fd79.63a.645.645 fd7a.63a.645.64a fd7b.63a.645.649 fd7c.641.62e.645",
    "fd7d.641.62e.645 fd7e.642.645.62d fd7f.642.645.645 fd80.644.62d.645 fd81.644.62d.64a",
    "fd82.644.62d.649 fd83.644.62c.62c fd84.644.62c.62c fd85.644.62e.645 fd86.644.62e.645",
    "fd87.644.645.62d fd88.644.645.62d fd89.645.62d.62c fd8a.645.62d.645 fd8b.645.62d.64a",
    "fd8c.645.62c.62d fd8d.645.62c.645 fd8e.645.62e.62c fd8f.645.62e.645 fd92.645.62c.62e",
    "fd93.647.645.62c fd94.647.645.645 fd95.646.62d.645 fd96.646.62d.649 fd97.646.62c.645",
    "fd98.646.62c.645 fd99.646.62c.649 fd9a.646.645.64a fd9b.646.645.649 fd9c.64a.645.645",
    "fd9d.64a.645.645 fd9e.628.62e.64a fd9f.62a.62c.64a fda0.62a.62c.649 fda1.62a.62e.64a",
    "fda2.62a.62e.649 fda3.62a.645.64a fda4.62a.645.649 fda5.62c.645.64a fda6.62c.62d.649",
    "fda7.62c.645.649 fda8.633.62e.649 fda9.635.62d.64a fdaa.634.62d.64a fdab.636.62d.64a",
    "fdac.644.62c.64a fdad.644.645.64a fdae.64a.62d.64a fdaf.64a.62c.64a fdb0.64a.645.64a",
    "fdb1.645.645.64a fdb2.642.645.64a fdb3.646.62d.64a fdb4.642.645.62d fdb5.644.62d.645",
    "fdb6.639.645.64a fdb7.643.645.64a fdb8.646.62c.62d fdb9.645.62e.64a fdba.644.62c.645",
    "fdbb.643.645.645 fdbc.644.62c.645 fdbd.646.62c.62d fdbe.62c.62d.64a fdbf.62d.62c.64a",
    "fdc0.645.62c.64a fdc1.641.645.64a fdc2.628.62d.64a fdc3.643.645.645 fdc4.639.62c.645",
    "fdc5.635.645.645 fdc6.633.62e.64a fdc7.646.62c.64a fdf0.635.644.6d2 fdf1.642.644.6d2",
    "fdf2.627.644.644.647 fdf3.627.643.628.631 fdf4.645.62d.645.62f fdf5.635.644.639.645",
    "fdf6.631.633.648.644 fdf7.639.644.64a.647 fdf8.648.633.644.645 fdf9.635.644.649",
    "fdfa.635.644.649.20.627.644.644.647.20.639.644.64a.647.20.648.633.644.645",
    "fdfb.62c.644.20.62c.644.627.644.647 fdfc.631.6cc.627.644 fe49.20.305 fe4a.20.305",
    "fe4b.20.305 fe4c.20.305 fe70.20.64b fe71.640.64b fe72.20.64c fe74.20.64d fe76.20.64e",
    "fe77.640.64e fe78.20.64f fe79.640.64f fe7a.20.650 fe7b.640.650 fe7c.20.651 fe7d.640.651",
    "fe7e.20.652 fe7f.640.652 fef5.644.622 fef6.644.622 fef7.644.623 fef8.644.623 fef9.644.625",
    "fefa.644.625 fefb.644.627 fefc.644.627 ffe3.20.304 1f101.30.2c 1f102.31.2c 1f103.32.2c",
    "1f104.33.2c 1f105.34.2c 1f106.35.2c 1f107.36.2c 1f108.37.2c 1f109.38.2c 1f10a.39.2c",
    "1f110.28.61.29 1f111.28.62.29 1f112.28.63.29 1f113.28.64.29 1f114.28.65.29 1f115.28.66.29",
    "1f116.28.67.29 1f117.28.68.29 1f118.28.69.29 1f119.28.6a.29 1f11a.28.6b.29 1f11b.28.6c.29",
    "1f11c.28.6d.29 1f11d.28.6e.29 1f11e.28.6f.29 1f11f.28.70.29 1f120.28.71.29 1f121.28.72.29",
    "1f122.28.73.29 1f123.28.74.29 1f124.28.75.29 1f125.28.76.29 1f126.28.77.29 1f127.28.78.29",
    "1f128.28.79.29 1f129.28.7a.29 1f12a.3014.73.3015 1f12d.63.64 1f12e.77.7a 1f14a.68.76",
    "1f14b.6d.76 1f14c.73.64 1f14d.73.73 1f14e.70.70.76 1f14f.77.63 1f16a.6d.63 1f16b.6d.64",
    "1f16c.6d.72 1f190.64.6a 1f200.307b.304b 1f201.30b3.30b3 1f240.3014.672c.3015",
    "1f241.3014.4e09.3015 1f242.3014.4e8c.3015 1f243.3014.5b89.3015 1f244.3014.70b9.3015",
    "1f245.3014.6253.3015 1f246.3014.76d7.3015 1f247.3014.52dd.3015 1f248.3014.6557.3015"]

/-- What a code point in a row is replaced by: a row with its first code point and the first
replacement, its size, and the two distances. -/
def inRow? (n first target size step rise : Nat) : Option Nat :=
  if first ≤ n ∧ (n - first) % step = 0 ∧ (n - first) / step < size then
    some (target + (n - first) / step * rise)
  else none

/-- What a code point is replaced by in a record of rows. -/
def replacement? (n : Nat) : List Nat → Option Nat
  | [first, target] => inRow? n first target 1 1 1
  | [first, target, size] => inRow? n first target size 1 1
  | [first, target, size, step, rise] => inRow? n first target size step rise
  | _ => none

/-- What a character is replaced by, if a name may be given with it. -/
def mapChar? (c : Char) : Option (List Char) :=
  let n := c.toNat
  if n < 0x80 then some [lower c]
  else if !inRanges allowed n then none
  else if inRanges ignored n then some []
  else
    match replaced.findSome? (replacement? n) with
    | some m => some [Char.ofNat m]
    | none =>
      (expanded.findSome? fun
        | m :: ns => if m = n then some (ns.map Char.ofNat) else none
        | [] => none).or (some [c])

/-- Whether the character is one of ASCII. -/
def isAscii (c : Char) : Bool := c.toNat < 0x80

/-- The name that all equivalent names have in common.  In ASCII there are only capitals to be
replaced. -/
def prepare? (cs : List Char) : Option (List Char) :=
  if cs.all isAscii then some (cs.map lower)
  else (cs.mapM mapChar?).map fun parts => Text.canonical parts.flatten

/-- Whether a name is the one that it would be replaced by. -/
def isStable (cs : List Char) : Bool :=
  cs.all (fun c => !inRanges ignored c.toNat) && prepare? cs = some cs

end LakeCatalog.Url.Domain
