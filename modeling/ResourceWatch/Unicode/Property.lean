import ResourceWatch.Unicode.Table

/-!
What characters are, which way they are written, and how they join.
-/

namespace ResourceWatch.Unicode

/-!
Properties of characters, as sets of code points. Code points that no character has yet are counted
among the unassigned ones.
-/

def unassigned : CodeSet := .ofText "
  378 2 6 4 7 1 1 1 14 1 18D 1 26 2 32 2 3 1 37 8 1B 4 6 B 10E 1 3C 2 65 E 3B 2 31 2 F 1 1C 2 1
  1 B 5 22 5 ED 1 8 2 2 2 16 1 7 1 1 3 4 2 9 2 2 2 4 8 1 4 2 1 5 2 19 2 3 1 6 4 2 2 16 1 7 1 2 1
  2 1 2 2 1 1 5 4 2 2 3 3 1 7 4 1 1 7 11 A 3 1 9 1 3 1 16 1 7 1 2 1 5 2 A 1 3 1 3 2 1 F 4 2 C 7
  7 1 3 1 8 2 2 2 16 1 7 1 2 1 5 2 9 2 2 2 3 7 3 4 2 1 5 2 12 A 2 1 6 3 3 1 4 3 2 1 1 1 2 3 2 3
  3 3 C 4 5 3 3 1 4 2 1 6 1 E 15 5 D 1 3 1 17 1 10 2 9 1 3 1 4 7 2 1 3 1 2 2 4 2 A 7 16 1 3 1 17
  1 A 1 5 2 9 1 3 1 4 7 2 5 3 1 4 2 A 1 3 C D 1 3 1 33 1 3 1 6 4 10 2 1A 1 3 1 12 3 18 1 9 1 1 2
  7 3 1 4 6 1 1 1 8 6 A 2 3 C 3A 4 1D 25 2 1 1 1 5 1 18 1 1 1 17 2 5 1 1 1 7 1 A 2 4 20 48 1 24
  4 27 1 24 1 F 1 D 25 C6 1 1 5 1 2 179 1 4 2 7 1 1 1 4 2 29 1 4 2 21 1 4 2 7 1 1 1 4 2 F 1 39 1
  4 2 43 2 20 3 1A 6 56 2 6 2 29D 3 59 7 16 9 18 9 14 C D 1 3 1 2 C 5E 2 A 6 A 6 1A 6 59 7 2B 5
  46 A 1F 1 C 4 C 4 1 3 2A 2 5 B 2C 4 1A 6 B 3 3E 2 41 1 1D 2 B 6 A 6 E 2 2E 2 C 14 4D 1 A6 8 3C
  3 F 3 3E 5 2B 2 B 8 2B 5 216 2 6 2 26 2 6 2 8 1 1 1 1 1 1 1 1F 2 35 1 F 1 E 2 6 1 13 2 3 1 9 1
  65 1 C 2 1B 1 D 3 22 E 21 F 8C 4 29A 16 B 15 714 2 17E 5 2D 1 1 5 1 2 38 7 2 E 18 9 7 1 7 1 7
  1 7 1 7 1 7 1 7 1 7 1 7E 22 1A 1 59 C D6 1A 50 1 56 2 67 5 2B 1 5E 1 56 9 30 1 726D 3 37 9 15C
  14 B8 8 DD 14 3C 3 A 6 38 8 46 8 C 6 74 B 1E 3 4E 1 B 4 21 1 37 9 E 2 A 2 67 18 1C A 6 2 6 2 6
  9 7 1 7 1 3C 4 7E 2 A 6 2BA4 C 17 4 31 4 226E 2 6A 26 7 C 5 5 1A 1 5 1 1 1 2 1 2 1 28A 20 2A 6
  33 1 13 1 4 4 5 1 87 2 1 1 BE 3 6 2 6 2 6 2 3 3 7 1 7 A 5 2 C 1 1A 1 13 1 2 1 F 2 E 22 7B 5 3
  4 2D 3 58 1 D 3 1 2F 2E 82 1D 3 31 F 1C 4 24 9 1E 5 2B 5 1E 1 25 4 E 2A 9E 2 A 6 24 4 24 4 28
  8 34 B C 1 F 1 7 1 2 1 B 1 F 1 7 1 2 3 34 C 137 9 16 A 8 18 6 1 2A 1 9 45 6 2 1 1 2C 1 2 3 1 2
  17 1 48 8 9 30 13 1 2 5 21 3 1B 5 1B 26 38 4 14 2 32 1 2 5 8 1 3 1 1D 2 3 4 A 7 9 7 40 20 27 4
  C 9 36 3 1D 2 1B 5 1A 7 4 C 7 50 49 37 33 D 33 7 2E 8 A 6 26 3 1D 8 2 D0 1F 1 2A 1 3 2 2 10 6
  8 9 21 2E 8 2A 16 1A 26 1C 14 17 9 4E 4 24 9 44 A 1 2 19 7 A 6 35 1 12 8 27 9 60 1 14 B 12 1
  2F 3E 7 1 1 1 4 1 F 1 B 6 3B 5 A 6 4 1 8 2 2 2 16 1 7 1 2 1 5 1 A 2 2 2 3 2 1 6 1 5 7 2 7 3 5
  B A 1 1 2 1 1 26 1 A 1 1 2 1 1 4 1 A 1 2 8 2 1D 5C 1 5 1E 48 8 A A6 36 2 26 22 45 B A 6 D 13
  3A 6 A 6 14 1C 1B 2 F 4 17 B9 3C 64 53 C 8 2 1 2 8 1 2 1 1E 1 2 2 C 9 A 46 8 2 2E 2 B 1B 48 8
  53 D 49 7 A 56 8 58 22 E A 6 9 1 2D 1 E A 1D 3 20 2 16 1 E 49 7 1 2 1 2C 3 1 1 2 1 9 8 A 6 6 1
  2 1 25 1 2 1 6 7 A 6 2C 4 A F6 19 7 11 1 29 3 1D 55 1 F 32 D 39B 66 6F 1 5 B C4 A4C 63 D 456 A
  F9B 5 247 1AB9 3A 6C6 239 7 1F 1 A 4 51 1 A 6 1E 2 6 A 46 A A 1 7 1 15 5 13 1B0 3A C6 5B 5 19
  2 19 2C 4B 4 39 7 11 40 5 B 7 9 1CD6 29 20 61 73 21FD 4 1 7 1 2 1 123 F 1 1D 3 2 1 E 4 8 18C
  904 6B 5 D 3 9 7 A 2 8 F5C FD 3 1B4 6 17 F 11 F 2E 2 17 9 74 3C F6 A 27 2 C2 15 46 7A 14 C 14
  C 57 9 19 87 55 1 47 1 2 2 1 2 2 2 4 1 C 1 1 1 7 1 41 1 4 2 8 1 7 1 1C 1 4 1 5 1 1 3 7 1 154 2
  124 2 2BE F 5 1 F 450 1F 6 6 D5 7 1 11 2 7 1 2 1 5 5 3E 21 1 70 2D 3 E 2 A 4 2 140 1F 11 3A 5
  1 1D0 2A D6 2B 4 1 C0 1F 1 16 8 2 E0 7 1 4 1 2 1 F 1 C5 2 10 29 4C 4 A 4 2 311 44 4C 3D C2 4 1
  1B 1 2 1 1 2 1 1 A 1 4 1 1 1 1 6 1 4 1 1 1 1 1 1 3 1 2 1 1 2 1 1 1 1 1 1 1 1 1 1 2 1 1 2 4 1 7
  1 4 1 4 1 1 1 A 1 11 5 3 1 5 1 11 34 2 10E 2C 4 64 C F 2 F 1 F 1 25 A AE 38 1D D 2C 4 9 7 2 E
  6 9A 3D9 3 11 3 D 3 DA 6 C 4 1 F C 4 38 8 A 6 28 8 1E 2 C 4 2 E 9 27 158 8 E 2 D 3 B 3 39 1 1
  4 10 2 C 4 A 7 93 1 67 405 A6E0 20 111E 2 168E 2 1D31 F 26E 9A2 21E 5E2 134B 5 212A ACB87 1 1E
  60 80 F0 FE10 FFFE 2 FFFE 2"

def nonspacing : CodeSet := .ofText "
  300 70 113 7 107 2D 1 1 1 2 1 2 1 1 48 B 30 15 10 1 65 7 2 6 2 2 1 4 23 1 1E 1B 5B B 3A 9 9 1
  18 4 1 9 1 3 1 5 2B 3 3B 9 2A 18 1 20 37 1 1 1 4 8 4 1 3 7 A 2 1D 1 3A 1 4 4 8 1 14 2 1A 1 2 2
  39 1 4 2 4 2 2 3 3 1 1E 2 3 1 B 2 39 1 4 5 1 2 4 1 14 2 16 6 1 1 3A 1 2 1 1 4 8 1 7 2 B 2 1E 1
  3D 1 C 1 32 1 3 1 37 1 1 3 5 3 1 4 7 2 B 2 1D 1 3A 1 2 1 6 1 5 2 14 2 1C 2 39 2 4 4 8 1 14 2
  1D 1 48 1 7 3 1 1 5A 1 2 7 C 8 62 1 2 9 B 7 49 2 1B 1 1 1 1 1 37 E 1 5 1 2 5 B 1 24 9 1 66 4 1
  6 1 2 2 2 19 2 4 3 10 4 D 1 2 2 6 1 F 1 2BF 3 3B2 3 1D 2 1E 2 1E 2 40 2 1 7 8 1 2 B 9 1 2D 3 1
  1 75 2 22 1 76 3 4 2 9 1 6 3 DB 2 2 1 3A 1 1 7 1 1 1 1 2 8 6 A 2 1 30 2E 2 C 14 4 30 1 1 5 1 1
  5 1 28 9 C 2 20 4 2 2 1 3 38 1 1 2 3 1 1 3 3A 8 2 2 98 3 1 D 1 7 4 1 6 1 3 2 C6 40 2D0 21 BFE
  3 8D 1 60 20 22A 4 6B 2 75D4 4 1 A 20 2 50 2 110 1 3 1 4 1 19 2 5 1 97 2 1A 12 D 1 26 8 19 B
  2E 3 30 1 2 4 2 2 27 1 43 6 2 2 2 2 C 1 8 1 2F 1 33 1 1 3 2 2 5 2 1 1 2A 2 8 1 EE 1 2 1 4 1
  4F30 1 2E1 10 10 10 3CD 1 E2 1 95 5 686 3 1 2 5 4 28 3 4 1 A5 2 23D 4 41 5 13D 2 4D 6 46 B 31
  4 7B 1 36 F 29 1 2 2 A 3 31 4 2 2 7 1 3D 3 24 5 1 8 3E 1 C 2 34 9 A 4 2 1 5F 3 2 1 1 2 6 1 2 1
  9D 1 3 8 15 2 39 2 3 1 25 7 3 5 46 6 D 1 1 1 1 1 E 2 55 8 2 3 1 1 17 1 54 6 1 1 4 2 1 2 EE 4 6
  2 1 2 1B 2 55 8 2 1 1 2 6A 1 1 1 2 6 1 1 65 1 1 1 2 4 1 5 103 9 1 2 100 2 1 1 4 1 90 4 2 2 4 1
  20 A 28 6 2 4 8 1 9 6 2 3 2E D 1 2 C6 1 1 3 1 1 C9 7 1 6 1 1 52 16 2 7 1 2 1 2 7A 6 3 1 1 2 1
  7 1 1 48 2 3 1 1 1 15B 2 B 2 34 5 5 1 1 1 17 1 14E5 1 6 F 2CC8 C 3 3 9C0 5 3B 7 418 1 3F 4 51
  1 4CB8 2 1261 2E 2 17 220 3 11 8 2 7 1E 4 94 3 7BB 37 4 32 8 1 E 1 16 5 1 F 550 7 1 11 2 7 1 2
  1 5 64 1 A0 7 177 1 3D 4 1FC 4 FE 2 F3 1 2 1 7 2 5 1 1DA 7 6D 7 C17B5 F0"

def spacing : CodeSet := .ofText "
  903 1 37 1 2 3 8 4 1 2 32 2 3A 3 6 2 2 2 A 1 2B 1 3A 3 42 1 3A 3 8 1 1 2 35 2 3A 1 1 1 6 2 2 2
  A 1 66 2 1 2 3 3 1 3 A 1 29 3 3D 4 3D 2 3A 1 1 5 2 2 1 2 9 2 1C 1 E 2 3A 3 5 3 1 3 A 1 2A 2 4B
  3 6 8 12 2 14A 2 3F 1 AB 2 4 1 6 1 2 2 19 2 A 3 2 7 15 2 2 6 2 1 A 3 678 1 1E 1 81 1 7 8 1 2
  15A 4 2 3 4 2 1 6 E0 2 3A 1 1 1 9 1 1 2 8 6 91 1 30 1 5 1 1 5 1 2 3D 1 1E 1 4 2 2 1 3C 1 2 3 1
  1 3 2 30 8 8 2 AB 1 15 1 1336 2 77F3 2 2 1 58 2 32 10 8E 2 2F 1 30 2 4 2 2 3 6E 2 2 2 18 1 2D
  1 1 1 6D 1 2 2 5 1 ED 2 1 2 1 2 1 1 6413 1 1 1 7F 1 2D 3 4 2 73 1 18 2 3B 1 30 3 9 2 D 1 5D 3
  3 2 1 1 AA 3 1F 2 3A 2 1 4 2 2 2 3 9 1 A 2 54 3 7 1 2 1 1 4 1 2 1 1 65 3 8 2 3 1 6A 3 6 1 1 4
  2 1 ED 3 6 4 2 1 71 3 8 2 1 1 6D 1 1 2 6 1 67 1 1 2 4 1 105 3 9 1 F7 6 1 2 4 1 2 1 1 1 8E 3 8
  4 4 1 54 1 1D 2 3E 1 C9 1 3 1 1 1 C7 1 E 1 6A 1 7 1 2 1 D5 5 4 2 1 1 15E 2 C 1 30 2 8 2 1 1
  41E8 3 E24 37 68 2 6173 2 6 6"

def letters : CodeSet := .ofText "
  41 1A 6 1A 2F 1 A 1 4 1 5 17 1 1F 1 1CA 4 C E 5 7 1 1 1 81 5 1 2 2 4 1 1 6 1 1 3 1 1 1 14 1 53
  1 8B 8 A6 1 26 2 1 6 29 47 1B 4 4 2D 2B 23 2 1 63 1 1 F 2 7 2 A 3 2 1 10 1 1 1E 1D 59 B 1 18
  21 9 2 4 1 5 16 4 1 9 1 3 1 17 19 7 B 5 18 1 7 10 2A 3A 36 3 1 12 1 7 A F 10 4 8 2 2 2 16 1 7
  1 1 3 4 3 1 10 1 D 2 1 3 E 2 A 1 8 6 4 2 2 16 1 7 1 2 1 2 1 2 1F 4 1 1 13 3 10 9 1 3 1 16 1 7
  1 2 1 5 3 1 12 1 F 2 17 1 B 8 2 2 2 16 1 7 1 2 1 5 3 1 1E 2 1 3 F 1 11 1 1 6 3 3 1 4 3 2 1 1 1
  2 3 2 3 3 3 C 16 1 34 8 1 3 1 17 1 10 3 1 1A 3 1 2 2 2 1E 1 4 8 1 3 1 17 1 A 1 5 3 1 1E 3 1 2
  F 2 11 9 1 3 1 29 2 1 10 1 5 3 8 3 18 6 5 12 3 18 1 9 1 1 2 7 3A 30 1 2 C 7 3A 2 1 1 1 5 1 18
  1 1 1 A 1 2 9 1 2 5 1 1 15 4 20 1 3F 8 1 24 1B 5 73 2B 14 1 10 6 4 4 3 1 3 2 7 3 4 D C 1 11 26
  1 1 5 1 2 2B 1 14D 1 4 2 7 1 1 1 4 2 29 1 4 2 21 1 4 2 7 1 1 1 4 2 F 1 39 1 4 2 43 25 10 10 56
  2 6 3 26C 2 11 1 1A 5 4B 3 B 7 12 D 13 E 12 E D 1 3 F 34 23 1 4 1 43 59 7 5 2 22 1 1 5 46 A 1F
  31 1E 2 5 B 2C 4 1A 36 17 9 35 52 1 5D 2F 11 8 36 1E D 2 A 2C 1A 24 29 3 A 24 2 B 5 2B 2 3 29
  4 1 6 1 2 3 1 5 C0 40 116 2 6 2 26 2 6 2 8 1 1 1 1 1 1 1 1F 2 35 1 7 1 1 3 3 1 7 3 4 2 6 4 D 5
  3 1 7 74 1 D 1 10 D 65 1 4 1 2 A 1 1 3 5 6 1 1 1 1 1 1 4 1 B 2 4 5 5 4 1 11 29 A77 E5 6 4 3 2
  C 26 1 1 5 1 2 38 7 1 10 17 9 7 1 7 1 7 1 7 1 7 1 7 1 7 1 7 50 1 1D5 3 19 9 7 5 2 5 4 56 6 3 1
  5A 1 4 5 2B 1 5E 11 20 30 10 200 19C0 40 568D 43 2E 2 10D 3 10 A 2 14 2F 10 1F 2 50 27 9 2 67
  2 52 14 11 1 3 1 4 1 17 1D 34 E 32 3E 6 3 1 1 2 B 1C A 17 19 1D 7 2F 1C 1 10 5 1 A A 5 1 29 17
  3 1 8 14 17 3 1 3 32 1 1 3 2 2 5 2 1 1 1 18 3 2 B 7 3 C 6 2 6 2 6 9 7 1 7 1 2B 1 E 6 73 1D
  2BA4 C 17 4 31 2104 16E 2 6A 26 7 C 5 5 1 1 A 1 D 1 5 1 1 1 2 1 2 1 6C 21 16B 12 40 2 36 28 C
  74 5 1 87 24 1A 6 1A B 59 3 6 2 6 2 6 2 3 23 C 1 1A 1 13 1 2 1 F 2 E 22 7B 45 35 10B 1D 3 31
  2F 20 D 1E 5 26 A 1E 2 24 4 8 1 5 2A 9E 12 24 4 24 4 28 8 34 C B 1 F 1 7 1 2 1 B 1 F 1 7 1 2 3
  34 C 137 9 16 A 8 18 6 1 2A 1 9 45 6 2 1 1 2C 1 2 3 1 2 17 A 17 9 1F 41 13 1 2 A 16 A 1A 6 1A
  26 38 6 2 40 1 F 4 1 3 1 1D 2A 1D 3 1D 23 8 1 1C 1B 36 A 16 A 13 D 12 6E 49 37 33 D 33 D 24 26
  1C 9 17 FA 2A 6 2 10 6 38 1D A 1 8 16 2A 12 2E 15 1B 17 C 35 39 2 2 1 D 2D 20 19 1A 24 1D 1 2
  1 8 23 3 1 C 30 E 4 15 1 1 1 23 12 1 19 13 2 3F 7 1 1 1 4 1 F 1 A 7 2F 26 8 2 2 2 16 1 7 1 2 1
  5 3 1 12 1 C 5 1E A 1 1 2 1 1 26 1 1 19 1 1 1 2C 35 12 4 14 3 1E 30 14 2 1 1 B8 2F 29 4 24 30
  14 1 3B 2B D 1 47 1B 25 7 B9 2C 74 40 1F 8 2 1 2 8 1 2 1 18 F 1 1 1 5E 8 2 27 10 1 1 1 1C 1 A
  28 7 1 15 1 B 2E 13 1 12 49 C7 21 1F 9 1 25 11 1 31 1E 70 7 1 2 1 26 15 1 19 6 1 2 1 20 E 1 17
  2C 104 13 F 1 1 D 1 22 7C 1 4F 39A 66 6F 11 C4 A4C 61 F 430 11 6 19 F9B 5 247 1AB9 1E 6E2 239
  7 1F 11 4F 11 1E 12 30 10 4 1F 15 5 13 1B0 2D D3 40 20 19 2 19 2C 4B 5 1 42 D 40 2 1 1 E 5 9
  1CD6 29 20 61 73 21FD 4 1 7 1 2 1 123 F 1 1D 3 2 1 E 4 8 18C 904 6B 5 D 3 9 7 A 1766 55 1 47 1
  2 2 1 2 2 2 4 1 C 1 1 1 7 1 41 1 4 2 8 1 7 1 1C 1 4 1 5 1 1 3 7 1 154 2 19 1 19 1 1F 1 19 1 1F
  1 19 1 1F 1 19 1 1F 1 19 1 8 734 1F 6 6 105 3E 92 2D A 7 10 1 141 1E 12 2C 1E4 1C E4 1E 2 1 CF
  1F 1 3 1 2 1 7 2 5 9 2 E0 7 1 4 1 2 1 F 1 C5 3B 44 7 1 4B4 4 1 1B 1 2 1 1 2 1 1 A 1 4 1 1 1 1
  6 1 4 1 1 1 1 1 1 3 1 2 1 1 2 1 1 1 1 1 1 1 1 1 1 2 1 1 2 4 1 7 1 4 1 4 1 1 1 A 1 11 5 3 1 5 1
  11 1144 A6E0 20 111E 2 168E 2 1D31 F 26E 9A2 21E 5E2 134B 5 212A"

/-- Digits, joining punctuation and signs that change the sound of a letter, as far as they are no
marks without room and no letters. -/
def continuing : CodeSet := .ofText "
  30 A 24 3 47 1 6 1 4 1 2 2 209 4 C E 5 7 1 1 1 11 75 1 E 2 2DA A 86 A C6 A 19C A 76 A 76 A 76
  A 76 A 76 A 76 A 76 A 76 A 76 A 60 A 76 A 46 A 14 2 100 A 19 2 4 5 19 6 2 D 679 1 1E 1 AB A 26
  A 12C A 80 A A6 A 6 A AA 1 B A 50 1 5 A 38 2 4C A 6 A 79 1 D 1 15 1 2C5 1 1 3 B 3 D 3 D 3 D 2
  40 2 13 1 FD9 2 6B 2 7583 A D6 17 9 2 67 2 145 A 26 A 24 1 24 1 6C 1 F A 16 A 56 A 21 1 1 1 DD
  1 E 2 80 1 3 A 5239 2 18 3 C0 A 24 3 A2 1 4BC A 886 A 6 A 31C A 80 A 3C A 80 1 F A 5B 1 BA A
  53 1 81 1 80 A 76 A 176 A 5C 1 9 A 6 14 4C A 1A6 A 53 1 12 A 296 A 56 A F6 A 46 A 36 A 157 1 E
  A 41D6 A 926 A 56 A 86 A 216 A 276 2 5CFE A 473 6 65B 32 940 A 1A6 A 1F6 A F7 A 355 A 1296 A"

/-- Characters that do not show, marks and unassigned code points apart: controls, format characters,
spaces other than the plain one, code points for private use, fillers, and marks with room that
belong to the letter before them. -/
def veiled : CodeSet := .ofText "
  0 20 5F 22 C 1 552 6 16 1 C0 1 31 1 180 2 50 1 DB 1 18 1 166 1 18 1 66 1 18 1 E8 1 1 1 4 2 1 2
  9 2 67 1 18 1 77 1 F 1 37F 2 51F 1 94 1 1E 1 D9 1 326 1 5 1 1 1 5 2 65 1 47 2 40C 10 18 8 2F 6
  1 A F90 1 2D 2 134 1 77EE 1 6C 1 2E3F 2100 5FF 1 A0 1 58 3 10C1 1 F 1 F2 1 74 1 108 1 E 1 9 1
  60 1 9 1 2 1 1 3 5 1 E0 1 C 1 F1 1 106 1 279 1 C 1 603 1 14EE 10 3BB0 2 4CAE 4 14C1 2 6 E
  C2E86 1 1E 60 FF80 FFFE 2 FFFE"

/-!
Which way characters are written. A line of text from left to right can hold words from right to left;
numbers and punctuation go along with the words around them.
-/

def leftward : CodeSet := .ofText "
  5BE 1 1 1 2 1 2 1 9 1B 4 6 13 1 2 1 1 1 D 1 1 2E 22 3 1 4 4 5D F 2 7 2 A 14 2 1 1 1E 1D 59 B 1
  E 2B 9 2 4 1 3 18 4 1 9 1 3 1 7 F 1 19 5 1 1 B 5 20 10 2A F2E8 11 2B0 1 98C 6 2 1 1 2C 1 2 3 1
  2 17 1 48 8 9 30 13 1 2 5 21 4 1A 5 1B 26 38 4 14 2 2F F 4 1 3 1 1D A 9 7 9 7 40 20 25 6 C 9
  36 A 16 2 1B 5 1A 7 4 C 7 50 49 77 33 7 2A 26 6 1F 17 8 2 F0 2A 3 1 2 2 10 6 38 28 8 16 B 9 16
  12 4 4 26 1C 14 17 D809 C5 2 9 52 22 7 1 4 A 4 2 311 44 4C 3D"

def easternDigits : CodeSet := .ofText "
  660 A 1 2 106C3 A 6 A 116 1F"

def westernDigits : CodeSet := .ofText "
  30 A 6B6 A FBE7 1B"

def neutral : CodeSet := .ofText "
  0 9 5 E 5 F A 7 1A 6 1A 5 21 7 1 1 1 2 1 1 1 2 4 2 3 1 3 1 17 1 1F 1 1C1 2 7 E 2 6 6 2 5 9 1
  11 75 1 80 1 193 1 2 3 76 2 1 2 1 1 1 2 5A 1 73 1 A 1 10C 4 1F8 2 7 1 F5 1 101 8 7D 7 1C0 1 FA
  4 452 A 66 1 29A 2 13E 1 14 A 6 B 135 1 3 2 98 22 60C 2 2 1 1 5 1 C 3 1 8 3 2 1 2 4 1 1 1 8 3
  D 1 7 41 8 1 19 42 1 3 1 B 1 2 2 5 2 3 1 1 1 1 1 1 1 4 1 B 1 6 4 5 4 3C 2 4 9C 2 1 2 F8 2 B 45
  1A 1 94 16 B A0 1C1 1 153 100 10C 1 67 3 65 1 97 2 8A E5 6 E 7 100 5E 22 1A 1 4 1 53 10E 1 1 2
  3 19 F 1 6 1 5 3 60 1 5A 1 C4 26 1BDA 40 5690 37 146 3 63 1 A 2 80 22 66 1 9F 4 C 2 3A 4 2F2 2
  5057 10 16B 12 40 2 36 8 2D 3 45 2 2BA 1 3E 4D 3 D 3 1 77E 1 219 7 22E 1 161 9 179 14 5FA D
  968 1D 4FF0 1 5C1D D6 24 3 3 1B4 6 17 F 11 2F8 2 15 42 3 1 BA 57 FA8 1 BF0 2 10E 2C 4 64 C F 2
  F 1 F 1 25 15 5 1F 1 3D 3 3D 1 B2 6 9A 3D9 3 11 3 D 3 DA 6 C 4 1 F C 4 38 8 A 6 28 8 1E 2 C 4
  2 E 9 27 158 8 E 2 D 3 B 3 39 1 1 4 10 2 C 4 A 7 93 1 5C A 1"

def upright : CodeSet := .ofText "
  CBF 1 6 1 10D40 2 236 1"

/-!
How letters join to their neighbours in scripts that are always written joined. Marks without room do
not stand between neighbours.
-/

def joinsNext : CodeSet := .ofText "
  620 1 5 1 1 1 1 5 4 D 1 7 1 2 23 2 9 F 12 26 1 2 9 1 1 1 1 2 28 3 2 1 12 3 5 4 1 9 1 1 1 1 1 2
  1F B 3 F 2 4 1 1 2 3 2 6 4A 21 56 5 2 1 1 A 1 1 A 1 1 4 2 1 1D 1 2 5 1 1 10 A 5 2 2 6 1 F F3E
  1 18 59 E 22 1 1 8F95 33 624D 5 8 1 5 A 1 3 A 4 91 1 1 1 3 3 1 2 1 1 2 1 1C 2 151 22 1 1 19F 2
  1 2 68 3 1 11 C 3 1C 4 2 C 2E 1 1 2 4 1 2 2 1 2 1 1 2 1 5 2 D956 22"

def joinsPrevious : CodeSet := .ofText "
  620 1 1 1E 1 A 23 2 1 3 5 5B 1 1 18 2 A 3 2 1 10 1 1 1E 1D 33 4A 21 55 19 7 1 1 4 1 4 5 13 3 1
  2 7 10 D 1 1B F3E 1 18 59 E 22 1 1 8F95 32 624E 6 1 1 1 2 3 9 1 A 2 1 6 5 90 12 17 6 152 23
  19E 3 1 2 68 15 C 4 1B 12 2E 1 1 5 1 8 1 4 4 2 D957 22"

/-- A letter that joins as marks do: not at all, without parting its neighbours. -/
def joiningLetter : Char := Char.ofNat 0x1E94B

end ResourceWatch.Unicode
