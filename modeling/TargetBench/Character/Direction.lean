import TargetBench.Character.Range

/-!
# Directions of characters

In which direction characters are written, as the property `Bidi_Class` tells.

## Main definitions

* `Direction`: the directions, as far as they differ in a line of a single word
* `Character.direction`: the direction of a character
-/

namespace TargetBench

/-- In which direction a character is written. -/
inductive Direction where
  /-- The class `L`. -/
  | rightwards
  /-- The classes `R` and `AL`. -/
  | leftwards
  /-- The class `EN`. -/
  | number
  /-- The class `AN`. -/
  | arabicNumber
  /-- The classes `ES`, `CS`, `ET`, `ON` and `BN`. -/
  | neutral
  /-- The class `NSM`, which takes the direction of the character before. -/
  | mark
  /-- All other classes, which end a line or set its direction. -/
  | control
deriving DecidableEq

namespace Character

/-- The ranges of the classes `R` and `AL`. -/
def leftwardsRows : List String :=
  ["590 5be 5c0 5c3 5c6 5c8-5ff 608 60b 60d 61b-64a 66d-66f 671-6d5 6e5-6e6 6ee-6ef 6fa-710",
   "712-72f 74b-7a5 7b1-7ea 7f4-7f5 7fa-7fc 7fe-815 81a 824 828 82e-858 85c-88f 892-896",
   "8a0-8c9 200f fb1d fb1f-fb28 fb2a-fbc2 fbd3-fd3d fd50-fd8f fd92-fdc7 fdf0-fdfc fe70-fefe",
   "10800-1091e 10920-10a00 10a04 10a07-10a0b 10a10-10a37 10a3b-10a3e 10a40-10ae4 10ae7-10b38",
   "10b40-10d23 10d28-10d2f 10d3a-10d68 10d6f-10e5f 10e7f-10eaa 10ead-10ecf 10ed9-10ef9",
   "10f00-10f45 10f51-10f81 10f86-10fff 1e800-1e8cf 1e8d7-1e943 1e94b-1eeef 1eef2-1efff"]

/-- The ranges of the class `EN`. -/
def numberRows : List String :=
  ["30-39 b2-b3 b9 6f0-6f9 2070 2074-2079 2080-2089 2488-249b ff10-ff19 102e1-102fb",
   "1ccf0-1ccf9 1d7ce-1d7ff 1f100-1f10a 1fbf0-1fbf9"]

/-- The ranges of the class `AN`. -/
def arabicNumberRows : List String :=
  ["600-605 660-669 66b-66c 6dd 890-891 8e2 10d30-10d39 10e60-10e7e"]

/-- The ranges of the classes `ES`, `CS`, `ET`, `ON` and `BN`. -/
def neutralRows : List String :=
  ["0-8 e-1b 21-2f 3a-40 5b-60 7b-84 86-a9 ab-b1 b4 b6-b8 bb-bf d7 f7 2b9-2ba 2c2-2cf 2d2-2df",
   "2e5-2ed 2ef-2ff 374-375 37e 384-385 387 3f6 58a 58d-58f 606-607 609-60a 60c 60e-60f 66a",
   "6de 6e9 7f6-7f9 9f2-9f3 9fb af1 bf3-bfa c78-c7e e3f f3a-f3d 1390-1399 1400 169b-169c 17db",
   "17f0-17f9 1800-180a 180e 1940 1944-1945 19de-19ff 1b4e-1b4f 1b7f 1fbd 1fbf-1fc1 1fcd-1fcf",
   "1fdd-1fdf 1fed-1fef 1ffd-1ffe 200b-200d 2010-2027 202f-205e 2060-2065 206a-206f 207a-207e",
   "208a-208e 20a0-20cf 2100-2101 2103-2106 2108-2109 2114 2116-2118 211e-2123 2125 2127 2129",
   "212e 213a-213b 2140-2144 214a-214d 2150-215f 2189-218b 2190-2335 237b-2394 2396-2429",
   "2440-244a 2460-2487 24ea-26ab 26ad-27ff 2900-2b73 2b76-2bff 2ce5-2cea 2cf9-2cff 2e00-2e5d",
   "2e80-2e99 2e9b-2ef3 2f00-2fd5 2ff0-2fff 3001-3004 3008-3020 3030 3036-3037 303d-303f",
   "309b-309c 30a0 30fb 31c0-31e5 31ef 321d-321e 3250-325f 327c-327e 32b1-32bf 32cc-32cf",
   "3377-337a 33de-33df 33ff 4dc0-4dff a490-a4c6 a60d-a60f a673 a67e-a67f a700-a721 a788",
   "a828-a82b a838-a839 a874-a877 ab6a-ab6b fb29 fbc3-fbd2 fd3e-fd4f fd90-fd91 fdc8-fdef",
   "fdfd-fdff fe10-fe19 fe30-fe52 fe54-fe66 fe68-fe6b feff ff01-ff0f ff1a-ff20 ff3b-ff40",
   "ff5b-ff65 ffe0-ffe6 ffe8-ffee fff0-ffff 10101 10140-1018c 10190-1019c 101a0 1091f",
   "10b39-10b3f 10d6e 10ed0-10ed8 11052-11065 113d4-113d5 113d7-113d8 11660-1166c 11be1",
   "11fd5-11ff1 16d6d-16d6f 16fe2 1bca0-1bca3 1cc00-1ccef 1ccfa-1ccfc 1cd00-1ceb3 1ceba-1ced0",
   "1cee0-1cef0 1d173-1d17a 1d1e9-1d1ea 1d200-1d241 1d245 1d300-1d356 1d6db 1d715 1d74f 1d789",
   "1d7c3 1e2ff 1e5ff 1eef0-1eef1 1f000-1f02b 1f030-1f093 1f0a0-1f0ae 1f0b1-1f0bf 1f0c1-1f0cf",
   "1f0d1-1f0f5 1f10b-1f10f 1f12f 1f16a-1f16f 1f1ad 1f260-1f265 1f300-1f6d8 1f6dc-1f6ec",
   "1f6f0-1f6fc 1f700-1f7d9 1f7e0-1f7eb 1f7f0 1f800-1f80b 1f810-1f847 1f850-1f859 1f860-1f887",
   "1f890-1f8ad 1f8b0-1f8bb 1f8c0-1f8c1 1f8d0-1f8d8 1f900-1fa57 1fa60-1fa6d 1fa70-1fa7c",
   "1fa80-1fa8a 1fa8e-1fac6 1fac8 1facd-1fadc 1fadf-1faea 1faef-1faf8 1fb00-1fb92 1fb94-1fbef",
   "1fbfa 1fffe-1ffff 2fffe-2ffff 3fffe-3ffff 4fffe-4ffff 5fffe-5ffff 6fffe-6ffff 7fffe-7ffff",
   "8fffe-8ffff 9fffe-9ffff afffe-affff bfffe-bffff cfffe-cffff dfffe-e00ff e01f0-e0fff",
   "efffe-effff ffffe-fffff 10fffe-10ffff"]

/-- The ranges of the class `NSM`. -/
def attachedRows : List String :=
  ["300-36f 483-489 591-5bd 5bf 5c1-5c2 5c4-5c5 5c7 610-61a 64b-65f 670 6d6-6dc 6df-6e4",
   "6e7-6e8 6ea-6ed 711 730-74a 7a6-7b0 7eb-7f3 7fd 816-819 81b-823 825-827 829-82d 859-85b",
   "897-89f 8ca-8e1 8e3-902 93a 93c 941-948 94d 951-957 962-963 981 9bc 9c1-9c4 9cd 9e2-9e3",
   "9fe a01-a02 a3c a41-a42 a47-a48 a4b-a4d a51 a70-a71 a75 a81-a82 abc ac1-ac5 ac7-ac8 acd",
   "ae2-ae3 afa-aff b01 b3c b3f b41-b44 b4d b55-b56 b62-b63 b82 bc0 bcd c00 c04 c3c c3e-c40",
   "c46-c48 c4a-c4d c55-c56 c62-c63 c81 cbc ccc-ccd ce2-ce3 d00-d01 d3b-d3c d41-d44 d4d",
   "d62-d63 d81 dca dd2-dd4 dd6 e31 e34-e3a e47-e4e eb1 eb4-ebc ec8-ece f18-f19 f35 f37 f39",
   "f71-f7e f80-f84 f86-f87 f8d-f97 f99-fbc fc6 102d-1030 1032-1037 1039-103a 103d-103e",
   "1058-1059 105e-1060 1071-1074 1082 1085-1086 108d 109d 135d-135f 1712-1714 1732-1733",
   "1752-1753 1772-1773 17b4-17b5 17b7-17bd 17c6 17c9-17d3 17dd 180b-180d 180f 1885-1886 18a9",
   "1920-1922 1927-1928 1932 1939-193b 1a17-1a18 1a1b 1a56 1a58-1a5e 1a60 1a62 1a65-1a6c",
   "1a73-1a7c 1a7f 1ab0-1add 1ae0-1aeb 1b00-1b03 1b34 1b36-1b3a 1b3c 1b42 1b6b-1b73 1b80-1b81",
   "1ba2-1ba5 1ba8-1ba9 1bab-1bad 1be6 1be8-1be9 1bed 1bef-1bf1 1c2c-1c33 1c36-1c37 1cd0-1cd2",
   "1cd4-1ce0 1ce2-1ce8 1ced 1cf4 1cf8-1cf9 1dc0-1dff 20d0-20f0 2cef-2cf1 2d7f 2de0-2dff",
   "302a-302d 3099-309a a66f-a672 a674-a67d a69e-a69f a6f0-a6f1 a802 a806 a80b a825-a826 a82c",
   "a8c4-a8c5 a8e0-a8f1 a8ff a926-a92d a947-a951 a980-a982 a9b3 a9b6-a9b9 a9bc-a9bd a9e5",
   "aa29-aa2e aa31-aa32 aa35-aa36 aa43 aa4c aa7c aab0 aab2-aab4 aab7-aab8 aabe-aabf aac1",
   "aaec-aaed aaf6 abe5 abe8 abed fb1e fe00-fe0f fe20-fe2f 101fd 102e0 10376-1037a",
   "10a01-10a03 10a05-10a06 10a0c-10a0f 10a38-10a3a 10a3f 10ae5-10ae6 10d24-10d27 10d69-10d6d",
   "10eab-10eac 10efa-10eff 10f46-10f50 10f82-10f85 11001 11038-11046 11070 11073-11074",
   "1107f-11081 110b3-110b6 110b9-110ba 110c2 11100-11102 11127-1112b 1112d-11134 11173",
   "11180-11181 111b6-111be 111c9-111cc 111cf 1122f-11231 11234 11236-11237 1123e 11241 112df",
   "112e3-112ea 11300-11301 1133b-1133c 11340 11366-1136c 11370-11374 113bb-113c0 113ce 113d0",
   "113d2 113e1-113e2 11438-1143f 11442-11444 11446 1145e 114b3-114b8 114ba 114bf-114c0",
   "114c2-114c3 115b2-115b5 115bc-115bd 115bf-115c0 115dc-115dd 11633-1163a 1163d 1163f-11640",
   "116ab 116ad 116b0-116b5 116b7 1171d-1171f 11722-11725 11727-1172b 1182f-11837 11839-1183a",
   "1193b-1193c 1193e 11943 119d4-119d7 119da-119db 119e0 11a01-11a06 11a09-11a0a 11a33-11a38",
   "11a3b-11a3e 11a47 11a51-11a56 11a59-11a5b 11a8a-11a96 11a98-11a99 11b60 11b62-11b64 11b66",
   "11c30-11c36 11c38-11c3d 11c92-11ca7 11caa-11cb0 11cb2-11cb3 11cb5-11cb6 11d31-11d36 11d3a",
   "11d3c-11d3d 11d3f-11d45 11d47 11d90-11d91 11d95 11d97 11ef3-11ef4 11f00-11f01 11f36-11f3a",
   "11f40 11f42 11f5a 13440 13447-13455 1611e-16129 1612d-1612f 16af0-16af4 16b30-16b36 16f4f",
   "16f8f-16f92 16fe4 1bc9d-1bc9e 1cf00-1cf2d 1cf30-1cf46 1d167-1d169 1d17b-1d182 1d185-1d18b",
   "1d1aa-1d1ad 1d242-1d244 1da00-1da36 1da3b-1da6c 1da75 1da84 1da9b-1da9f 1daa1-1daaf",
   "1e000-1e006 1e008-1e018 1e01b-1e021 1e023-1e024 1e026-1e02a 1e08f 1e130-1e136 1e2ae",
   "1e2ec-1e2ef 1e4ec-1e4ef 1e5ee-1e5ef 1e6e3 1e6e6 1e6ee-1e6ef 1e6f5 1e8d0-1e8d6 1e944-1e94a",
   "e0100-e01ef"]

/-- The ranges of the classes of separators and of marks that set a direction. -/
def controlRows : List String :=
  ["9-d 1c-20 85 1680 2000-200a 2028-202e 205f 2066-2069 3000"]

/-- The directions with their characters. -/
def directions : List (Direction × CharSet) :=
  [(.leftwards, .ofRows leftwardsRows), (.number, .ofRows numberRows),
    (.arabicNumber, .ofRows arabicNumberRows), (.neutral, .ofRows neutralRows),
    (.mark, .ofRows attachedRows), (.control, .ofRows controlRows)]

/-- The direction of a character. -/
def direction (c : Char) : Direction :=
  ((directions.find? fun d => d.2.contains c).map (·.1)).getD .rightwards

end Character

end TargetBench
