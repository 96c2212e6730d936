import Stubgen.Unicode.CodeSet

/-!
# Break classes

The classes by which text is cut into grapheme clusters, words and sentences.
-/

namespace Stubgen.Segmentation

/-- The grapheme cluster break class of every code point; `-` stands for the
class of all others. -/
def graphemes : Runs := Runs.read "
10 CN 1 LF 2 CN 1 CR 18 CN 95 - 33 CN 13 - 1 CN 594 - 112 EX 275 - 7 EX 263 -
45 EX 1 - 1 EX 1 - 2 EX 1 - 2 EX 1 - 1 EX 56 - 6 PP 10 - 11 EX 1 - 1 CN 46 -
21 EX 16 - 1 EX 101 - 7 EX 1 PP 1 - 6 EX 2 - 2 EX 1 - 4 EX 33 - 1 PP 1 - 1 EX
30 - 27 EX 91 - 11 EX 58 - 9 EX 9 - 1 EX 24 - 4 EX 1 - 9 EX 1 - 3 EX 1 - 5 EX
43 - 3 EX 52 - 2 PP 6 - 8 EX 42 - 24 EX 1 PP 32 EX 1 SM 54 - 1 EX 1 SM 1 EX 1 -
3 SM 8 EX 4 SM 1 EX 2 SM 1 - 7 EX 10 - 2 EX 29 - 1 EX 2 SM 56 - 1 EX 1 - 1 EX
2 SM 4 EX 2 - 2 SM 2 - 2 SM 1 EX 9 - 1 EX 10 - 2 EX 26 - 1 EX 2 - 2 EX 1 SM 56 -
1 EX 1 - 3 SM 2 EX 4 - 2 EX 2 - 3 EX 3 - 1 EX 30 - 2 EX 3 - 1 EX 11 - 2 EX 1 SM
56 - 1 EX 1 - 3 SM 5 EX 1 - 2 EX 1 SM 1 - 2 SM 1 EX 20 - 2 EX 22 - 6 EX 1 - 1 EX
2 SM 56 - 1 EX 1 - 2 EX 1 SM 4 EX 2 - 2 SM 2 - 2 SM 1 EX 7 - 3 EX 10 - 2 EX 30 -
1 EX 59 - 1 EX 1 SM 1 EX 2 SM 3 - 3 SM 1 - 3 SM 1 EX 9 - 1 EX 40 - 1 EX 3 SM
1 EX 55 - 1 EX 1 - 3 EX 4 SM 1 - 3 EX 1 - 4 EX 7 - 2 EX 11 - 2 EX 29 - 1 EX 2 SM
56 - 1 EX 1 - 1 SM 1 EX 2 SM 1 EX 2 SM 1 - 1 EX 2 SM 1 - 2 SM 2 EX 7 - 2 EX 11 -
2 EX 15 - 1 SM 12 - 2 EX 2 SM 55 - 2 EX 1 - 1 EX 2 SM 4 EX 1 - 3 SM 1 - 3 SM
1 EX 1 PP 8 - 1 EX 10 - 2 EX 29 - 1 EX 2 SM 70 - 1 EX 4 - 1 EX 2 SM 3 EX 1 -
1 EX 1 - 7 SM 1 EX 18 - 2 SM 61 - 1 EX 1 - 1 SM 7 EX 12 - 8 EX 98 - 1 EX 1 -
1 SM 9 EX 11 - 7 EX 73 - 2 EX 27 - 1 EX 1 - 1 EX 1 - 1 EX 4 - 2 SM 49 - 14 EX
1 SM 5 EX 1 - 2 EX 5 - 11 EX 1 - 36 EX 9 - 1 EX 102 - 4 EX 1 SM 6 EX 1 - 2 EX
2 SM 2 EX 23 - 2 SM 2 EX 4 - 3 EX 16 - 4 EX 13 - 1 EX 1 - 1 SM 2 EX 6 - 1 EX
15 - 1 EX 98 - 96 L 72 V 88 T 349 - 3 EX 946 - 3 EX 1 SM 28 - 2 EX 1 SM 29 -
2 EX 30 - 2 EX 64 - 2 EX 1 SM 7 EX 8 SM 1 EX 2 SM 11 EX 9 - 1 EX 45 - 3 EX 1 CN
1 EX 117 - 2 EX 34 - 1 EX 118 - 3 EX 4 SM 2 EX 3 SM 4 - 2 SM 1 EX 6 SM 3 EX
219 - 2 EX 2 SM 1 EX 57 - 1 SM 1 EX 1 SM 7 EX 1 - 1 EX 1 - 1 EX 2 - 8 EX 6 SM
10 EX 2 - 1 EX 48 - 31 EX 49 - 4 EX 1 SM 47 - 7 EX 1 SM 1 EX 5 SM 1 EX 2 SM 38 -
9 EX 12 - 2 EX 1 SM 30 - 1 SM 4 EX 2 SM 2 EX 1 SM 3 EX 56 - 1 EX 1 SM 2 EX 3 SM
1 EX 1 SM 3 EX 2 SM 48 - 8 SM 8 EX 2 SM 2 EX 152 - 3 EX 1 - 13 EX 1 SM 7 EX 4 -
1 EX 6 - 1 EX 2 - 1 SM 2 EX 198 - 64 EX 523 - 1 CN 1 EX 1 ZWJ 2 CN 24 - 7 CN
49 - 16 CN 96 - 33 EX 3070 - 3 EX 141 - 1 EX 96 - 32 EX 554 - 6 EX 105 - 2 EX
30164 - 4 EX 1 - 10 EX 32 - 2 EX 80 - 2 EX 272 - 1 EX 3 - 1 EX 4 - 1 EX 23 -
2 SM 2 EX 1 SM 4 - 1 EX 83 - 2 SM 50 - 16 SM 2 EX 26 - 18 EX 13 - 1 EX 38 - 8 EX
25 - 11 EX 2 SM 12 - 29 L 3 - 3 EX 1 SM 47 - 1 EX 2 SM 4 EX 2 SM 2 EX 3 SM 36 -
1 EX 67 - 6 EX 2 SM 2 EX 2 SM 2 EX 12 - 1 EX 8 - 1 EX 1 SM 46 - 1 EX 51 - 1 EX
1 - 3 EX 2 - 2 EX 5 - 2 EX 1 - 1 EX 41 - 1 SM 2 EX 2 SM 5 - 1 SM 1 EX 236 - 2 SM
1 EX 2 SM 1 EX 2 SM 1 - 1 SM 1 EX 18 - 1 LV 27 LVT 1 LV 27 LVT 1 LV 27 LVT 1 LV
27 LVT 1 LV 27 LVT 1 LV 27 LVT 1 LV 27 LVT 1 LV 27 LVT 1 LV 27 LVT 1 LV 27 LVT
1 LV 27 LVT 1 LV 27 LVT 1 LV 27 LVT 1 LV 27 LVT 1 LV 27 LVT 1 LV 27 LVT 1 LV
27 LVT 1 LV 27 LVT 1 LV 27 LVT 1 LV 27 LVT 1 LV 27 LVT 1 LV 27 LVT 1 LV 27 LVT
1 LV 27 LVT 1 LV 27 LVT 1 LV 27 LVT 1 LV 27 LVT 1 LV 27 LVT 1 LV 27 LVT 1 LV
27 LVT 1 LV 27 LVT 1 LV 27 LVT 1 LV 27 LVT 1 LV 27 LVT 1 LV 27 LVT 1 LV 27 LVT
1 LV 27 LVT 1 LV 27 LVT 1 LV 27 LVT 1 LV 27 LVT 1 LV 27 LVT 1 LV 27 LVT 1 LV
27 LVT 1 LV 27 LVT 1 LV 27 LVT 1 LV 27 LVT 1 LV 27 LVT 1 LV 27 LVT 1 LV 27 LVT
1 LV 27 LVT 1 LV 27 LVT 1 LV 27 LVT 1 LV 27 LVT 1 LV 27 LVT 1 LV 27 LVT 1 LV
27 LVT 1 LV 27 LVT 1 LV 27 LVT 1 LV 27 LVT 1 LV 27 LVT 1 LV 27 LVT 1 LV 27 LVT
1 LV 27 LVT 1 LV 27 LVT 1 LV 27 LVT 1 LV 27 LVT 1 LV 27 LVT 1 LV 27 LVT 1 LV
27 LVT 1 LV 27 LVT 1 LV 27 LVT 1 LV 27 LVT 1 LV 27 LVT 1 LV 27 LVT 1 LV 27 LVT
1 LV 27 LVT 1 LV 27 LVT 1 LV 27 LVT 1 LV 27 LVT 1 LV 27 LVT 1 LV 27 LVT 1 LV
27 LVT 1 LV 27 LVT 1 LV 27 LVT 1 LV 27 LVT 1 LV 27 LVT 1 LV 27 LVT 1 LV 27 LVT
1 LV 27 LVT 1 LV 27 LVT 1 LV 27 LVT 1 LV 27 LVT 1 LV 27 LVT 1 LV 27 LVT 1 LV
27 LVT 1 LV 27 LVT 1 LV 27 LVT 1 LV 27 LVT 1 LV 27 LVT 1 LV 27 LVT 1 LV 27 LVT
1 LV 27 LVT 1 LV 27 LVT 1 LV 27 LVT 1 LV 27 LVT 1 LV 27 LVT 1 LV 27 LVT 1 LV
27 LVT 1 LV 27 LVT 1 LV 27 LVT 1 LV 27 LVT 1 LV 27 LVT 1 LV 27 LVT 1 LV 27 LVT
1 LV 27 LVT 1 LV 27 LVT 1 LV 27 LVT 1 LV 27 LVT 1 LV 27 LVT 1 LV 27 LVT 1 LV
27 LVT 1 LV 27 LVT 1 LV 27 LVT 1 LV 27 LVT 1 LV 27 LVT 1 LV 27 LVT 1 LV 27 LVT
1 LV 27 LVT 1 LV 27 LVT 1 LV 27 LVT 1 LV 27 LVT 1 LV 27 LVT 1 LV 27 LVT 1 LV
27 LVT 1 LV 27 LVT 1 LV 27 LVT 1 LV 27 LVT 1 LV 27 LVT 1 LV 27 LVT 1 LV 27 LVT
1 LV 27 LVT 1 LV 27 LVT 1 LV 27 LVT 1 LV 27 LVT 1 LV 27 LVT 1 LV 27 LVT 1 LV
27 LVT 1 LV 27 LVT 1 LV 27 LVT 1 LV 27 LVT 1 LV 27 LVT 1 LV 27 LVT 1 LV 27 LVT
1 LV 27 LVT 1 LV 27 LVT 1 LV 27 LVT 1 LV 27 LVT 1 LV 27 LVT 1 LV 27 LVT 1 LV
27 LVT 1 LV 27 LVT 1 LV 27 LVT 1 LV 27 LVT 1 LV 27 LVT 1 LV 27 LVT 1 LV 27 LVT
1 LV 27 LVT 1 LV 27 LVT 1 LV 27 LVT 1 LV 27 LVT 1 LV 27 LVT 1 LV 27 LVT 1 LV
27 LVT 1 LV 27 LVT 1 LV 27 LVT 1 LV 27 LVT 1 LV 27 LVT 1 LV 27 LVT 1 LV 27 LVT
1 LV 27 LVT 1 LV 27 LVT 1 LV 27 LVT 1 LV 27 LVT 1 LV 27 LVT 1 LV 27 LVT 1 LV
27 LVT 1 LV 27 LVT 1 LV 27 LVT 1 LV 27 LVT 1 LV 27 LVT 1 LV 27 LVT 1 LV 27 LVT
1 LV 27 LVT 1 LV 27 LVT 1 LV 27 LVT 1 LV 27 LVT 1 LV 27 LVT 1 LV 27 LVT 1 LV
27 LVT 1 LV 27 LVT 1 LV 27 LVT 1 LV 27 LVT 1 LV 27 LVT 1 LV 27 LVT 1 LV 27 LVT
1 LV 27 LVT 1 LV 27 LVT 1 LV 27 LVT 1 LV 27 LVT 1 LV 27 LVT 1 LV 27 LVT 1 LV
27 LVT 1 LV 27 LVT 1 LV 27 LVT 1 LV 27 LVT 1 LV 27 LVT 1 LV 27 LVT 1 LV 27 LVT
1 LV 27 LVT 1 LV 27 LVT 1 LV 27 LVT 1 LV 27 LVT 1 LV 27 LVT 1 LV 27 LVT 1 LV
27 LVT 1 LV 27 LVT 1 LV 27 LVT 1 LV 27 LVT 1 LV 27 LVT 1 LV 27 LVT 1 LV 27 LVT
1 LV 27 LVT 1 LV 27 LVT 1 LV 27 LVT 1 LV 27 LVT 1 LV 27 LVT 1 LV 27 LVT 1 LV
27 LVT 1 LV 27 LVT 1 LV 27 LVT 1 LV 27 LVT 1 LV 27 LVT 1 LV 27 LVT 1 LV 27 LVT
1 LV 27 LVT 1 LV 27 LVT 1 LV 27 LVT 1 LV 27 LVT 1 LV 27 LVT 1 LV 27 LVT 1 LV
27 LVT 1 LV 27 LVT 1 LV 27 LVT 1 LV 27 LVT 1 LV 27 LVT 1 LV 27 LVT 1 LV 27 LVT
1 LV 27 LVT 1 LV 27 LVT 1 LV 27 LVT 1 LV 27 LVT 1 LV 27 LVT 1 LV 27 LVT 1 LV
27 LVT 1 LV 27 LVT 1 LV 27 LVT 1 LV 27 LVT 1 LV 27 LVT 1 LV 27 LVT 1 LV 27 LVT
1 LV 27 LVT 1 LV 27 LVT 1 LV 27 LVT 1 LV 27 LVT 1 LV 27 LVT 1 LV 27 LVT 1 LV
27 LVT 1 LV 27 LVT 1 LV 27 LVT 1 LV 27 LVT 1 LV 27 LVT 1 LV 27 LVT 1 LV 27 LVT
1 LV 27 LVT 1 LV 27 LVT 1 LV 27 LVT 1 LV 27 LVT 1 LV 27 LVT 1 LV 27 LVT 1 LV
27 LVT 1 LV 27 LVT 1 LV 27 LVT 1 LV 27 LVT 1 LV 27 LVT 1 LV 27 LVT 1 LV 27 LVT
1 LV 27 LVT 1 LV 27 LVT 1 LV 27 LVT 1 LV 27 LVT 1 LV 27 LVT 1 LV 27 LVT 1 LV
27 LVT 1 LV 27 LVT 1 LV 27 LVT 1 LV 27 LVT 1 LV 27 LVT 1 LV 27 LVT 1 LV 27 LVT
1 LV 27 LVT 1 LV 27 LVT 1 LV 27 LVT 1 LV 27 LVT 1 LV 27 LVT 1 LV 27 LVT 1 LV
27 LVT 1 LV 27 LVT 1 LV 27 LVT 1 LV 27 LVT 1 LV 27 LVT 1 LV 27 LVT 1 LV 27 LVT
1 LV 27 LVT 1 LV 27 LVT 1 LV 27 LVT 1 LV 27 LVT 1 LV 27 LVT 1 LV 27 LVT 1 LV
27 LVT 1 LV 27 LVT 1 LV 27 LVT 1 LV 27 LVT 1 LV 27 LVT 1 LV 27 LVT 1 LV 27 LVT
1 LV 27 LVT 1 LV 27 LVT 1 LV 27 LVT 1 LV 27 LVT 1 LV 27 LVT 1 LV 27 LVT 1 LV
27 LVT 1 LV 27 LVT 1 LV 27 LVT 1 LV 27 LVT 1 LV 27 LVT 1 LV 27 LVT 1 LV 27 LVT
1 LV 27 LVT 1 LV 27 LVT 1 LV 27 LVT 1 LV 27 LVT 1 LV 27 LVT 1 LV 27 LVT 1 LV
27 LVT 1 LV 27 LVT 1 LV 27 LVT 1 LV 27 LVT 1 LV 27 LVT 1 LV 27 LVT 1 LV 27 LVT
1 LV 27 LVT 1 LV 27 LVT 1 LV 27 LVT 1 LV 27 LVT 1 LV 27 LVT 1 LV 27 LVT 1 LV
27 LVT 1 LV 27 LVT 1 LV 27 LVT 1 LV 27 LVT 1 LV 27 LVT 1 LV 27 LVT 1 LV 27 LVT
1 LV 27 LVT 1 LV 27 LVT 1 LV 27 LVT 1 LV 27 LVT 1 LV 27 LVT 1 LV 27 LVT 1 LV
27 LVT 1 LV 27 LVT 1 LV 27 LVT 1 LV 27 LVT 1 LV 27 LVT 1 LV 27 LVT 1 LV 27 LVT
1 LV 27 LVT 1 LV 27 LVT 1 LV 27 LVT 1 LV 27 LVT 1 LV 27 LVT 1 LV 27 LVT 1 LV
27 LVT 1 LV 27 LVT 1 LV 27 LVT 1 LV 27 LVT 1 LV 27 LVT 1 LV 27 LVT 12 - 23 V 4 -
49 T 8994 - 1 EX 737 - 16 EX 16 - 16 EX 207 - 1 CN 158 - 2 EX 80 - 12 CN 513 -
1 EX 226 - 1 EX 149 - 5 EX 1670 - 3 EX 1 - 2 EX 5 - 4 EX 40 - 3 EX 4 - 1 EX
165 - 2 EX 573 - 4 EX 387 - 2 EX 80 - 3 EX 70 - 11 EX 49 - 4 EX 122 - 1 SM 1 EX
1 SM 53 - 15 EX 41 - 1 EX 2 - 2 EX 10 - 3 EX 1 SM 45 - 3 SM 4 EX 2 SM 2 EX 2 -
1 PP 4 - 1 EX 10 - 1 PP 50 - 3 EX 36 - 5 EX 1 SM 8 EX 16 - 2 SM 44 - 1 EX 12 -
2 EX 1 SM 48 - 3 SM 9 EX 2 SM 1 - 2 PP 5 - 4 EX 1 - 1 SM 1 EX 92 - 3 SM 3 EX
2 SM 1 EX 1 SM 2 EX 6 - 1 EX 2 - 1 EX 157 - 1 EX 3 SM 8 EX 21 - 2 EX 2 SM 55 -
2 EX 1 - 1 EX 1 SM 1 EX 4 SM 2 - 2 SM 2 - 3 SM 9 - 1 EX 10 - 2 SM 2 - 7 EX 3 -
5 EX 192 - 3 SM 8 EX 2 SM 3 EX 1 SM 1 EX 23 - 1 EX 81 - 1 EX 2 SM 6 EX 1 SM 1 EX
2 SM 1 EX 1 SM 2 EX 1 SM 2 EX 235 - 1 EX 2 SM 4 EX 2 - 4 SM 2 EX 1 SM 2 EX 27 -
2 EX 82 - 3 SM 8 EX 2 SM 1 EX 1 SM 2 EX 106 - 1 EX 1 SM 1 EX 2 SM 6 EX 1 SM 1 EX
101 - 3 EX 2 - 4 EX 1 SM 5 EX 256 - 3 SM 9 EX 1 SM 2 EX 245 - 1 EX 5 SM 1 - 2 SM
2 - 2 EX 1 SM 1 EX 1 PP 1 SM 1 PP 1 SM 1 EX 141 - 3 SM 4 EX 2 - 2 EX 4 SM 1 EX
3 - 1 SM 28 - 10 EX 40 - 6 EX 1 SM 1 PP 4 EX 8 - 1 EX 9 - 6 EX 2 SM 3 EX 40 -
6 PP 13 EX 1 SM 2 EX 405 - 1 SM 7 EX 1 - 6 EX 1 SM 1 EX 82 - 22 EX 1 - 1 SM 7 EX
1 SM 2 EX 1 SM 2 EX 122 - 6 EX 3 - 1 EX 1 - 2 EX 1 - 7 EX 1 PP 1 EX 66 - 5 SM
1 - 2 EX 1 - 2 SM 1 EX 1 SM 1 EX 347 - 2 EX 2 SM 9 - 2 EX 1 PP 1 SM 48 - 2 SM
5 EX 3 - 2 SM 1 EX 1 SM 1 EX 5357 - 16 CN 1 EX 6 - 15 EX 13978 - 5 EX 59 - 7 EX
1048 - 1 EX 1 - 55 SM 7 - 4 EX 81 - 1 EX 11 - 2 SM 19627 - 2 EX 1 - 4 CN 4700 -
46 EX 2 - 23 EX 542 - 1 EX 1 SM 3 EX 3 - 1 SM 5 EX 8 CN 8 EX 2 - 7 EX 30 - 4 EX
148 - 3 EX 1979 - 55 EX 4 - 50 EX 8 - 1 EX 14 - 1 EX 22 - 5 EX 1 - 15 EX 1360 -
7 EX 1 - 17 EX 2 - 7 EX 1 - 2 EX 1 - 5 EX 100 - 1 EX 160 - 7 EX 375 - 1 EX 61 -
4 EX 508 - 4 EX 992 - 7 EX 109 - 7 EX 2203 - 26 RI 507 - 5 EX 789504 - 32 CN
96 EX 128 CN 240 EX 3600 CN"

/-- The word break class of every code point; `-` stands for the class of all
others. -/
def words : Runs := Runs.read "
10 - 1 LF 2 NL 1 CR 18 - 1 WSegSpace 1 - 1 DQ 4 - 1 SQ 4 - 1 MN 1 - 1 MB 1 -
10 NU 1 ML 1 MN 5 - 26 LE 4 - 1 EX 1 - 26 LE 10 - 1 NL 36 - 1 LE 2 - 1 FO 7 -
1 LE 1 - 1 ML 2 - 1 LE 5 - 23 LE 1 - 31 LE 1 - 480 LE 6 - 34 LE 112 Extend 5 LE
1 - 2 LE 2 - 4 LE 1 MN 1 LE 6 - 1 LE 1 ML 3 LE 1 - 1 LE 1 - 20 LE 1 - 83 LE 1 -
139 LE 1 - 7 Extend 166 LE 1 - 38 LE 2 - 4 LE 1 - 1 LE 1 ML 41 LE 1 MN 1 LE 6 -
45 Extend 1 - 1 Extend 1 - 2 Extend 1 - 2 Extend 1 - 1 Extend 8 - 27 HL 4 - 4 HL
1 LE 1 ML 11 - 6 FO 6 - 2 MN 2 - 11 Extend 1 - 1 FO 3 - 43 LE 21 Extend 10 NU
1 - 1 NU 1 MN 1 - 2 LE 1 Extend 99 LE 1 - 1 LE 7 Extend 1 FO 1 - 6 Extend 2 LE
2 Extend 1 - 4 Extend 2 LE 10 NU 3 LE 2 - 1 LE 15 - 1 FO 1 LE 1 Extend 30 LE
27 Extend 2 - 89 LE 11 Extend 1 LE 14 - 10 NU 33 LE 9 Extend 2 LE 2 - 1 MN 1 -
1 LE 2 - 1 Extend 2 - 22 LE 4 Extend 1 LE 9 Extend 1 LE 3 Extend 1 LE 5 Extend
18 - 25 LE 3 Extend 4 - 11 LE 5 - 24 LE 1 - 6 LE 1 - 2 FO 6 - 8 Extend 42 LE
24 Extend 1 FO 33 Extend 54 LE 3 Extend 1 LE 18 Extend 1 LE 7 Extend 10 LE
2 Extend 2 - 10 NU 1 - 16 LE 3 Extend 1 - 8 LE 2 - 2 LE 2 - 22 LE 1 - 7 LE 1 -
1 LE 3 - 4 LE 2 - 1 Extend 1 LE 7 Extend 2 - 2 Extend 2 - 3 Extend 1 LE 8 -
1 Extend 4 - 2 LE 1 - 3 LE 2 Extend 2 - 10 NU 2 LE 10 - 1 LE 1 - 1 Extend 2 -
3 Extend 1 - 6 LE 4 - 2 LE 2 - 22 LE 1 - 7 LE 1 - 2 LE 1 - 2 LE 1 - 2 LE 2 -
1 Extend 1 - 5 Extend 4 - 2 Extend 2 - 3 Extend 3 - 1 Extend 7 - 4 LE 1 - 1 LE
7 - 10 NU 2 Extend 3 LE 1 Extend 11 - 3 Extend 1 - 9 LE 1 - 3 LE 1 - 22 LE 1 -
7 LE 1 - 2 LE 1 - 5 LE 2 - 1 Extend 1 LE 8 Extend 1 - 3 Extend 1 - 3 Extend 2 -
1 LE 15 - 2 LE 2 Extend 2 - 10 NU 9 - 1 LE 6 Extend 1 - 3 Extend 1 - 8 LE 2 -
2 LE 2 - 22 LE 1 - 7 LE 1 - 2 LE 1 - 5 LE 2 - 1 Extend 1 LE 7 Extend 2 -
2 Extend 2 - 3 Extend 7 - 3 Extend 4 - 2 LE 1 - 3 LE 2 Extend 2 - 10 NU 1 - 1 LE
16 - 1 Extend 1 LE 1 - 6 LE 3 - 3 LE 1 - 4 LE 3 - 2 LE 1 - 1 LE 1 - 2 LE 3 -
2 LE 3 - 3 LE 3 - 12 LE 4 - 5 Extend 3 - 3 Extend 1 - 4 Extend 2 - 1 LE 6 -
1 Extend 14 - 10 NU 16 - 5 Extend 8 LE 1 - 3 LE 1 - 23 LE 1 - 16 LE 2 - 1 Extend
1 LE 7 Extend 1 - 3 Extend 1 - 4 Extend 7 - 2 Extend 1 - 3 LE 2 - 1 LE 2 - 2 LE
2 Extend 2 - 10 NU 16 - 1 LE 3 Extend 1 - 8 LE 1 - 3 LE 1 - 23 LE 1 - 10 LE 1 -
5 LE 2 - 1 Extend 1 LE 7 Extend 1 - 3 Extend 1 - 4 Extend 7 - 2 Extend 6 - 2 LE
1 - 2 LE 2 Extend 2 - 10 NU 1 - 2 LE 1 Extend 12 - 4 Extend 9 LE 1 - 3 LE 1 -
41 LE 2 Extend 1 LE 7 Extend 1 - 3 Extend 1 - 4 Extend 1 LE 5 - 3 LE 1 Extend
7 - 3 LE 2 Extend 2 - 10 NU 10 - 6 LE 1 - 3 Extend 1 - 18 LE 3 - 24 LE 1 - 9 LE
1 - 1 LE 2 - 7 LE 3 - 1 Extend 4 - 6 Extend 1 - 1 Extend 1 - 8 Extend 6 - 10 NU
2 - 2 Extend 61 - 1 Extend 2 - 7 Extend 12 - 8 Extend 1 - 10 NU 87 - 1 Extend
2 - 9 Extend 11 - 7 Extend 1 - 10 NU 38 - 1 LE 23 - 2 Extend 6 - 10 NU 11 -
1 Extend 1 - 1 Extend 1 - 1 Extend 4 - 2 Extend 8 LE 1 - 36 LE 4 - 20 Extend 1 -
2 Extend 5 LE 11 Extend 1 - 36 Extend 9 - 1 Extend 100 - 20 Extend 1 - 10 NU
12 - 4 Extend 4 - 3 Extend 1 - 3 Extend 2 - 7 Extend 3 - 4 Extend 13 - 12 Extend
1 - 1 Extend 10 NU 4 Extend 2 - 38 LE 1 - 1 LE 5 - 1 LE 2 - 43 LE 1 - 333 LE 1 -
4 LE 2 - 7 LE 1 - 1 LE 1 - 4 LE 2 - 41 LE 1 - 4 LE 2 - 33 LE 1 - 4 LE 2 - 7 LE
1 - 1 LE 1 - 4 LE 2 - 15 LE 1 - 57 LE 1 - 4 LE 2 - 67 LE 2 - 3 Extend 32 - 16 LE
16 - 86 LE 2 - 6 LE 3 - 620 LE 2 - 17 LE 1 WSegSpace 26 LE 5 - 75 LE 3 - 11 LE
7 - 18 LE 4 Extend 9 - 19 LE 3 Extend 11 - 18 LE 2 Extend 12 - 13 LE 1 - 3 LE
1 - 2 Extend 64 - 32 Extend 9 - 1 Extend 2 - 10 NU 33 - 3 Extend 1 FO 1 Extend
10 NU 6 - 89 LE 7 - 5 LE 2 Extend 34 LE 1 Extend 1 LE 5 - 70 LE 10 - 31 LE 1 -
12 Extend 4 - 12 Extend 10 - 10 NU 128 - 10 NU 38 - 23 LE 5 Extend 57 -
10 Extend 1 - 29 Extend 2 - 1 Extend 10 NU 6 - 10 NU 22 - 31 Extend 49 -
5 Extend 47 LE 17 Extend 8 LE 3 - 10 NU 17 - 9 Extend 12 - 3 Extend 30 LE
13 Extend 2 LE 10 NU 44 LE 14 Extend 12 - 36 LE 20 Extend 8 - 10 NU 3 - 3 LE
10 NU 36 LE 2 - 9 LE 7 - 43 LE 2 - 3 LE 16 - 3 Extend 1 - 21 Extend 4 LE
1 Extend 6 LE 1 Extend 2 LE 3 Extend 1 LE 5 - 192 LE 64 Extend 278 LE 2 - 6 LE
2 - 38 LE 2 - 6 LE 2 - 8 LE 1 - 1 LE 1 - 1 LE 1 - 1 LE 1 - 31 LE 2 - 53 LE 1 -
7 LE 1 - 1 LE 3 - 3 LE 1 - 7 LE 3 - 4 LE 2 - 6 LE 4 - 13 LE 5 - 3 LE 1 - 7 LE
3 - 7 WSegSpace 1 - 3 WSegSpace 1 - 1 Extend 1 ZWJ 2 FO 8 - 2 MB 10 - 1 MB 2 -
1 ML 2 NL 5 FO 1 EX 15 - 2 EX 3 - 1 MN 15 - 1 EX 10 - 1 WSegSpace 5 FO 1 - 10 FO
1 - 1 LE 13 - 1 LE 16 - 13 LE 51 - 33 Extend 17 - 1 LE 4 - 1 LE 2 - 10 LE 1 -
1 LE 3 - 5 LE 6 - 1 LE 1 - 1 LE 1 - 1 LE 1 - 4 LE 1 - 11 LE 2 - 4 LE 5 - 5 LE
4 - 1 LE 17 - 41 LE 813 - 52 LE 1814 - 229 LE 6 - 4 LE 3 Extend 2 LE 12 - 38 LE
1 - 1 LE 5 - 1 LE 2 - 56 LE 7 - 1 LE 15 - 1 Extend 23 LE 9 - 7 LE 1 - 7 LE 1 -
7 LE 1 - 7 LE 1 - 7 LE 1 - 7 LE 1 - 7 LE 1 - 7 LE 1 - 32 Extend 47 - 1 LE 464 -
1 WSegSpace 4 - 1 LE 36 - 6 Extend 1 - 5 KA 5 - 2 LE 92 - 2 Extend 2 KA 3 -
91 KA 1 - 4 KA 5 - 43 LE 1 - 94 LE 17 - 32 LE 48 - 16 KA 208 - 47 KA 1 - 88 KA
27816 - 1165 LE 67 - 46 LE 2 - 269 LE 3 - 16 LE 10 NU 2 LE 20 - 47 LE 4 Extend
1 - 10 Extend 1 - 31 LE 2 Extend 80 LE 2 Extend 22 - 195 LE 5 - 2 LE 1 - 1 LE
1 - 5 LE 24 - 16 LE 1 Extend 3 LE 1 Extend 4 LE 1 Extend 23 LE 5 Extend 4 -
1 Extend 19 - 52 LE 12 - 2 Extend 50 LE 18 Extend 10 - 10 NU 6 - 18 Extend 6 LE
3 - 1 LE 1 - 2 LE 1 Extend 10 NU 28 LE 8 Extend 2 - 23 LE 13 Extend 12 - 29 LE
3 - 4 Extend 47 LE 14 Extend 14 - 1 LE 10 NU 11 - 1 Extend 10 - 10 NU 6 - 41 LE
14 Extend 9 - 3 LE 1 Extend 8 LE 2 Extend 2 - 10 NU 33 - 3 Extend 50 - 1 Extend
1 - 3 Extend 2 - 2 Extend 5 - 2 Extend 1 - 1 Extend 30 - 11 LE 5 Extend 2 - 3 LE
2 Extend 10 - 6 LE 2 - 6 LE 2 - 6 LE 9 - 7 LE 1 - 7 LE 1 - 58 LE 6 - 115 LE
8 Extend 1 - 2 Extend 2 - 10 NU 6 - 11172 LE 12 - 23 LE 4 - 49 LE 8964 - 7 LE
12 - 5 LE 5 - 1 HL 1 Extend 10 HL 1 - 13 HL 1 - 5 HL 1 - 1 HL 1 - 2 HL 1 - 2 HL
1 - 10 HL 98 LE 33 - 363 LE 18 - 64 LE 2 - 54 LE 40 - 12 LE 4 - 16 Extend 1 MN
2 - 1 ML 1 MN 11 - 16 Extend 3 - 2 EX 24 - 3 EX 1 MN 1 - 1 MB 1 - 1 MN 1 ML 26 -
5 LE 1 - 135 LE 2 - 1 FO 7 - 1 MB 4 - 1 MN 1 - 1 MB 1 - 10 NU 1 ML 1 MN 5 -
26 LE 4 - 1 EX 1 - 26 LE 11 - 56 KA 2 Extend 31 LE 3 - 6 LE 2 - 6 LE 2 - 6 LE
2 - 3 LE 28 - 3 FO 4 - 12 LE 1 - 26 LE 1 - 19 LE 1 - 2 LE 1 - 15 LE 2 - 14 LE
34 - 123 LE 69 - 53 LE 136 - 1 Extend 130 - 29 LE 3 - 49 LE 15 - 1 Extend 31 -
32 LE 13 - 30 LE 5 - 38 LE 5 Extend 5 - 30 LE 2 - 36 LE 4 - 8 LE 1 - 5 LE 42 -
158 LE 2 - 10 NU 6 - 36 LE 4 - 36 LE 4 - 40 LE 8 - 52 LE 12 - 11 LE 1 - 15 LE
1 - 7 LE 1 - 2 LE 1 - 11 LE 1 - 15 LE 1 - 7 LE 1 - 2 LE 67 - 311 LE 9 - 22 LE
10 - 8 LE 24 - 6 LE 1 - 42 LE 1 - 9 LE 69 - 6 LE 2 - 1 LE 1 - 44 LE 1 - 2 LE 3 -
1 LE 2 - 23 LE 10 - 23 LE 9 - 31 LE 65 - 19 LE 1 - 2 LE 10 - 22 LE 10 - 26 LE
70 - 56 LE 6 - 2 LE 64 - 1 LE 3 Extend 1 - 2 Extend 5 - 4 Extend 4 LE 1 - 3 LE
1 - 29 LE 2 - 3 Extend 4 - 1 Extend 32 - 29 LE 3 - 29 LE 35 - 8 LE 1 - 28 LE
2 Extend 25 - 54 LE 10 - 22 LE 10 - 19 LE 13 - 18 LE 110 - 73 LE 55 - 51 LE 13 -
51 LE 13 - 36 LE 4 Extend 8 - 10 NU 326 - 42 LE 1 - 2 Extend 3 - 2 LE 75 -
3 Extend 29 LE 10 - 1 LE 8 - 22 LE 11 Extend 31 - 18 LE 4 Extend 42 - 21 LE 27 -
23 LE 9 - 3 Extend 53 LE 15 Extend 31 - 10 NU 1 Extend 2 LE 2 Extend 1 LE 9 -
4 Extend 45 LE 11 Extend 2 - 1 FO 4 - 1 Extend 10 - 1 FO 2 - 25 LE 7 - 10 NU 6 -
3 Extend 36 LE 14 Extend 1 - 10 NU 4 - 1 LE 2 Extend 1 LE 8 - 35 LE 1 Extend 2 -
1 LE 9 - 3 Extend 48 LE 14 Extend 4 LE 4 - 4 Extend 1 - 2 Extend 10 NU 1 LE 1 -
1 LE 35 - 18 LE 1 - 25 LE 12 Extend 6 - 1 Extend 2 LE 1 Extend 62 - 7 LE 1 -
1 LE 1 - 4 LE 1 - 15 LE 1 - 10 LE 7 - 47 LE 12 Extend 5 - 10 NU 6 - 4 Extend 1 -
8 LE 2 - 2 LE 2 - 22 LE 1 - 7 LE 1 - 2 LE 1 - 5 LE 1 - 2 Extend 1 LE 7 Extend
2 - 2 Extend 2 - 3 Extend 2 - 1 LE 6 - 1 Extend 5 - 5 LE 2 Extend 2 - 7 Extend
3 - 5 Extend 139 - 53 LE 18 Extend 4 LE 5 - 10 NU 4 - 1 Extend 3 LE 30 - 48 LE
20 Extend 2 LE 1 - 1 LE 8 - 10 NU 166 - 47 LE 7 Extend 2 - 9 Extend 23 - 4 LE
2 Extend 34 - 48 LE 17 Extend 3 - 1 LE 11 - 10 NU 38 - 43 LE 13 Extend 1 LE 7 -
10 NU 83 - 15 Extend 4 - 10 NU 198 - 44 LE 15 Extend 101 - 64 LE 10 NU 21 - 8 LE
2 - 1 LE 2 - 8 LE 1 - 2 LE 1 - 24 LE 6 Extend 1 - 2 Extend 2 - 4 Extend 1 LE
1 Extend 1 LE 2 Extend 12 - 10 NU 70 - 8 LE 2 - 39 LE 7 Extend 2 - 7 Extend 1 LE
1 - 1 LE 1 Extend 27 - 1 LE 10 Extend 40 LE 7 Extend 1 LE 4 Extend 8 - 1 Extend
8 - 1 LE 11 Extend 46 LE 16 Extend 3 - 1 LE 18 - 73 LE 263 - 9 LE 1 - 37 LE
8 Extend 1 - 8 Extend 1 LE 15 - 10 NU 24 - 30 LE 2 - 22 Extend 1 - 14 Extend
73 - 7 LE 1 - 2 LE 1 - 38 LE 6 Extend 3 - 1 Extend 1 - 2 Extend 1 - 7 Extend
1 LE 1 Extend 8 - 10 NU 6 - 6 LE 1 - 2 LE 1 - 32 LE 5 Extend 1 - 2 Extend 1 -
5 Extend 1 LE 7 - 10 NU 310 - 19 LE 4 Extend 9 - 2 Extend 1 LE 1 Extend 13 LE
1 - 34 LE 7 Extend 3 - 5 Extend 13 - 10 NU 86 - 1 LE 79 - 922 LE 102 - 111 LE
17 - 196 LE 2636 - 97 LE 15 - 1072 LE 16 FO 1 Extend 6 LE 15 Extend 4010 -
583 LE 8633 - 569 LE 7 - 31 LE 1 - 10 NU 6 - 79 LE 1 - 10 NU 6 - 30 LE 2 -
5 Extend 11 - 48 LE 7 Extend 9 - 4 LE 12 - 10 NU 9 - 21 LE 5 - 19 LE 688 - 64 LE
128 - 75 LE 4 - 1 Extend 1 LE 55 Extend 7 - 4 Extend 13 LE 64 - 2 LE 1 - 1 LE
1 Extend 11 - 2 Extend 16382 - 4 KA 1 - 7 KA 1 - 2 KA 1 - 1 KA 287 - 3 KA 50 -
1 KA 14 - 4 KA 2712 - 107 LE 5 - 13 LE 3 - 9 LE 7 - 10 LE 3 - 2 Extend 1 - 4 FO
4700 - 46 Extend 2 - 23 Extend 542 - 5 Extend 3 - 6 Extend 8 FO 8 Extend 2 -
7 Extend 30 - 4 Extend 148 - 3 Extend 443 - 85 LE 1 - 71 LE 1 - 2 LE 2 - 1 LE
2 - 2 LE 2 - 4 LE 1 - 12 LE 1 - 1 LE 1 - 7 LE 1 - 65 LE 1 - 4 LE 2 - 8 LE 1 -
7 LE 1 - 28 LE 1 - 4 LE 1 - 5 LE 1 - 1 LE 3 - 7 LE 1 - 340 LE 2 - 25 LE 1 -
25 LE 1 - 31 LE 1 - 25 LE 1 - 31 LE 1 - 25 LE 1 - 31 LE 1 - 25 LE 1 - 31 LE 1 -
25 LE 1 - 8 LE 2 - 50 NU 512 - 55 Extend 4 - 50 Extend 8 - 1 Extend 14 -
1 Extend 22 - 5 Extend 1 - 15 Extend 1104 - 31 LE 6 - 6 LE 213 - 7 Extend 1 -
17 Extend 2 - 7 Extend 1 - 2 Extend 1 - 5 Extend 5 - 62 LE 33 - 1 Extend 112 -
45 LE 3 - 7 Extend 7 LE 2 - 10 NU 4 - 1 LE 321 - 30 LE 1 Extend 17 - 44 LE
4 Extend 10 NU 470 - 28 LE 4 Extend 10 NU 742 - 7 LE 1 - 4 LE 1 - 2 LE 1 - 15 LE
1 - 197 LE 11 - 7 Extend 41 - 68 LE 7 Extend 1 LE 4 - 10 NU 1190 - 4 LE 1 -
27 LE 1 - 2 LE 1 - 1 LE 2 - 1 LE 1 - 10 LE 1 - 4 LE 1 - 1 LE 1 - 1 LE 6 - 1 LE
4 - 1 LE 1 - 1 LE 1 - 1 LE 1 - 3 LE 1 - 2 LE 1 - 1 LE 2 - 1 LE 1 - 1 LE 1 - 1 LE
1 - 1 LE 1 - 1 LE 1 - 2 LE 1 - 1 LE 2 - 4 LE 1 - 7 LE 1 - 4 LE 1 - 4 LE 1 - 1 LE
1 - 10 LE 1 - 17 LE 5 - 3 LE 1 - 5 LE 1 - 17 LE 628 - 26 LE 6 - 26 LE 6 - 26 LE
92 - 26 RI 507 - 5 Extend 2032 - 10 NU 787463 - 1 FO 30 - 96 Extend 128 -
240 Extend"

/-- The sentence break class of every code point; `-` stands for the class of
all others. -/
def sentences : Runs := Runs.read "
9 - 1 SP 1 LF 2 SP 1 CR 18 - 1 SP 1 ST 1 CL 4 - 3 CL 2 - 2 SC 1 AT 1 - 10 NU
1 SC 4 - 1 ST 1 - 26 UP 1 CL 1 - 1 CL 3 - 26 LO 1 CL 1 - 1 CL 7 - 1 SE 26 - 1 SP
9 - 1 LO 1 CL 1 - 1 FO 7 - 1 LO 4 - 1 LO 1 CL 4 - 23 UP 1 - 7 UP 24 LO 1 - 8 LO
1 UP 1 LO 1 UP 1 LO 1 UP 1 LO 1 UP 1 LO 1 UP 1 LO 1 UP 1 LO 1 UP 1 LO 1 UP 1 LO
1 UP 1 LO 1 UP 1 LO 1 UP 1 LO 1 UP 1 LO 1 UP 1 LO 1 UP 1 LO 1 UP 1 LO 1 UP 1 LO
1 UP 1 LO 1 UP 1 LO 1 UP 1 LO 1 UP 1 LO 1 UP 1 LO 1 UP 1 LO 1 UP 1 LO 1 UP 1 LO
1 UP 1 LO 1 UP 1 LO 1 UP 1 LO 1 UP 2 LO 1 UP 1 LO 1 UP 1 LO 1 UP 1 LO 1 UP 1 LO
1 UP 1 LO 1 UP 1 LO 1 UP 1 LO 1 UP 2 LO 1 UP 1 LO 1 UP 1 LO 1 UP 1 LO 1 UP 1 LO
1 UP 1 LO 1 UP 1 LO 1 UP 1 LO 1 UP 1 LO 1 UP 1 LO 1 UP 1 LO 1 UP 1 LO 1 UP 1 LO
1 UP 1 LO 1 UP 1 LO 1 UP 1 LO 1 UP 1 LO 1 UP 1 LO 1 UP 1 LO 1 UP 1 LO 1 UP 1 LO
1 UP 1 LO 1 UP 1 LO 1 UP 1 LO 2 UP 1 LO 1 UP 1 LO 1 UP 3 LO 2 UP 1 LO 1 UP 1 LO
2 UP 1 LO 3 UP 2 LO 4 UP 1 LO 2 UP 1 LO 3 UP 3 LO 2 UP 1 LO 2 UP 1 LO 1 UP 1 LO
1 UP 1 LO 2 UP 1 LO 1 UP 2 LO 1 UP 1 LO 2 UP 1 LO 3 UP 1 LO 1 UP 1 LO 2 UP 2 LO
1 LE 1 UP 3 LO 4 LE 2 UP 1 LO 2 UP 1 LO 2 UP 1 LO 1 UP 1 LO 1 UP 1 LO 1 UP 1 LO
1 UP 1 LO 1 UP 1 LO 1 UP 1 LO 1 UP 1 LO 1 UP 2 LO 1 UP 1 LO 1 UP 1 LO 1 UP 1 LO
1 UP 1 LO 1 UP 1 LO 1 UP 1 LO 1 UP 1 LO 1 UP 1 LO 1 UP 2 LO 2 UP 1 LO 1 UP 1 LO
3 UP 1 LO 1 UP 1 LO 1 UP 1 LO 1 UP 1 LO 1 UP 1 LO 1 UP 1 LO 1 UP 1 LO 1 UP 1 LO
1 UP 1 LO 1 UP 1 LO 1 UP 1 LO 1 UP 1 LO 1 UP 1 LO 1 UP 1 LO 1 UP 1 LO 1 UP 1 LO
1 UP 1 LO 1 UP 1 LO 1 UP 1 LO 1 UP 1 LO 1 UP 1 LO 1 UP 1 LO 1 UP 1 LO 1 UP 1 LO
1 UP 1 LO 1 UP 1 LO 1 UP 1 LO 1 UP 1 LO 1 UP 1 LO 1 UP 7 LO 2 UP 1 LO 2 UP 2 LO
1 UP 1 LO 4 UP 1 LO 1 UP 1 LO 1 UP 1 LO 1 UP 1 LO 1 UP 69 LO 1 LE 36 LO 7 LE
2 LO 4 - 12 LE 14 - 5 LO 7 - 1 LE 1 - 1 LE 17 - 112 EX 1 UP 1 LO 1 UP 1 LO 1 LE
1 - 1 UP 1 LO 2 - 4 LO 1 - 1 UP 6 - 1 UP 1 - 3 UP 1 - 1 UP 1 - 2 UP 1 LO 17 UP
1 - 9 UP 35 LO 1 UP 2 LO 3 UP 3 LO 1 UP 1 LO 1 UP 1 LO 1 UP 1 LO 1 UP 1 LO 1 UP
1 LO 1 UP 1 LO 1 UP 1 LO 1 UP 1 LO 1 UP 1 LO 1 UP 1 LO 1 UP 1 LO 1 UP 5 LO 1 UP
1 LO 1 - 1 UP 1 LO 2 UP 2 LO 51 UP 48 LO 1 UP 1 LO 1 UP 1 LO 1 UP 1 LO 1 UP 1 LO
1 UP 1 LO 1 UP 1 LO 1 UP 1 LO 1 UP 1 LO 1 UP 1 LO 1 UP 1 LO 1 UP 1 LO 1 UP 1 LO
1 UP 1 LO 1 UP 1 LO 1 UP 1 LO 1 UP 1 LO 1 UP 1 LO 1 - 7 EX 1 UP 1 LO 1 UP 1 LO
1 UP 1 LO 1 UP 1 LO 1 UP 1 LO 1 UP 1 LO 1 UP 1 LO 1 UP 1 LO 1 UP 1 LO 1 UP 1 LO
1 UP 1 LO 1 UP 1 LO 1 UP 1 LO 1 UP 1 LO 1 UP 1 LO 1 UP 1 LO 1 UP 1 LO 1 UP 1 LO
1 UP 1 LO 1 UP 1 LO 1 UP 1 LO 1 UP 1 LO 1 UP 1 LO 1 UP 1 LO 1 UP 1 LO 1 UP 1 LO
1 UP 1 LO 2 UP 1 LO 1 UP 1 LO 1 UP 1 LO 1 UP 1 LO 1 UP 1 LO 1 UP 1 LO 1 UP 2 LO
1 UP 1 LO 1 UP 1 LO 1 UP 1 LO 1 UP 1 LO 1 UP 1 LO 1 UP 1 LO 1 UP 1 LO 1 UP 1 LO
1 UP 1 LO 1 UP 1 LO 1 UP 1 LO 1 UP 1 LO 1 UP 1 LO 1 UP 1 LO 1 UP 1 LO 1 UP 1 LO
1 UP 1 LO 1 UP 1 LO 1 UP 1 LO 1 UP 1 LO 1 UP 1 LO 1 UP 1 LO 1 UP 1 LO 1 UP 1 LO
1 UP 1 LO 1 UP 1 LO 1 UP 1 LO 1 UP 1 LO 1 UP 1 LO 1 UP 1 LO 1 UP 1 LO 1 UP 1 LO
1 UP 1 LO 1 UP 1 LO 1 UP 1 LO 1 UP 1 LO 1 UP 1 LO 1 UP 1 LO 1 UP 1 LO 1 UP 1 LO
1 UP 1 LO 1 UP 1 LO 1 UP 1 LO 1 UP 1 LO 1 UP 1 LO 1 UP 1 LO 1 UP 1 LO 1 UP 1 LO
1 - 38 UP 2 - 1 LE 3 - 1 SC 2 - 41 LO 1 ST 7 - 45 EX 1 - 1 EX 1 - 2 EX 1 - 2 EX
1 - 1 EX 8 - 27 LE 4 - 5 LE 12 - 6 FO 6 - 2 SC 2 - 11 EX 1 - 1 FO 3 ST 43 LE
21 EX 10 NU 1 - 2 NU 1 - 2 LE 1 EX 99 LE 1 ST 1 LE 7 EX 1 FO 1 - 6 EX 2 LE 2 EX
1 - 4 EX 2 LE 10 NU 3 LE 2 - 1 LE 3 ST 12 - 1 FO 1 LE 1 EX 30 LE 27 EX 2 - 89 LE
11 EX 1 LE 14 - 10 NU 33 LE 9 EX 2 LE 2 - 1 SC 1 ST 1 LE 2 - 1 EX 2 - 22 LE 4 EX
1 LE 9 EX 1 LE 3 EX 1 LE 5 EX 9 - 1 ST 1 - 1 ST 3 - 2 ST 1 - 25 LE 3 EX 4 -
11 LE 5 - 24 LE 1 - 6 LE 1 - 2 FO 6 - 8 EX 42 LE 24 EX 1 FO 33 EX 54 LE 3 EX
1 LE 18 EX 1 LE 7 EX 10 LE 2 EX 2 ST 10 NU 1 - 16 LE 3 EX 1 - 8 LE 2 - 2 LE 2 -
22 LE 1 - 7 LE 1 - 1 LE 3 - 4 LE 2 - 1 EX 1 LE 7 EX 2 - 2 EX 2 - 3 EX 1 LE 8 -
1 EX 4 - 2 LE 1 - 3 LE 2 EX 2 - 10 NU 2 LE 10 - 1 LE 1 - 1 EX 2 - 3 EX 1 - 6 LE
4 - 2 LE 2 - 22 LE 1 - 7 LE 1 - 2 LE 1 - 2 LE 1 - 2 LE 2 - 1 EX 1 - 5 EX 4 -
2 EX 2 - 3 EX 3 - 1 EX 7 - 4 LE 1 - 1 LE 7 - 10 NU 2 EX 3 LE 1 EX 11 - 3 EX 1 -
9 LE 1 - 3 LE 1 - 22 LE 1 - 7 LE 1 - 2 LE 1 - 5 LE 2 - 1 EX 1 LE 8 EX 1 - 3 EX
1 - 3 EX 2 - 1 LE 15 - 2 LE 2 EX 2 - 10 NU 9 - 1 LE 6 EX 1 - 3 EX 1 - 8 LE 2 -
2 LE 2 - 22 LE 1 - 7 LE 1 - 2 LE 1 - 5 LE 2 - 1 EX 1 LE 7 EX 2 - 2 EX 2 - 3 EX
7 - 3 EX 4 - 2 LE 1 - 3 LE 2 EX 2 - 10 NU 1 - 1 LE 16 - 1 EX 1 LE 1 - 6 LE 3 -
3 LE 1 - 4 LE 3 - 2 LE 1 - 1 LE 1 - 2 LE 3 - 2 LE 3 - 3 LE 3 - 12 LE 4 - 5 EX
3 - 3 EX 1 - 4 EX 2 - 1 LE 6 - 1 EX 14 - 10 NU 16 - 5 EX 8 LE 1 - 3 LE 1 - 23 LE
1 - 16 LE 2 - 1 EX 1 LE 7 EX 1 - 3 EX 1 - 4 EX 7 - 2 EX 1 - 3 LE 2 - 1 LE 2 -
2 LE 2 EX 2 - 10 NU 16 - 1 LE 3 EX 1 - 8 LE 1 - 3 LE 1 - 23 LE 1 - 10 LE 1 -
5 LE 2 - 1 EX 1 LE 7 EX 1 - 3 EX 1 - 4 EX 7 - 2 EX 6 - 2 LE 1 - 2 LE 2 EX 2 -
10 NU 1 - 2 LE 1 EX 12 - 4 EX 9 LE 1 - 3 LE 1 - 41 LE 2 EX 1 LE 7 EX 1 - 3 EX
1 - 4 EX 1 LE 5 - 3 LE 1 EX 7 - 3 LE 2 EX 2 - 10 NU 10 - 6 LE 1 - 3 EX 1 - 18 LE
3 - 24 LE 1 - 9 LE 1 - 1 LE 2 - 7 LE 3 - 1 EX 4 - 6 EX 1 - 1 EX 1 - 8 EX 6 -
10 NU 2 - 2 EX 13 - 48 LE 1 EX 2 LE 7 EX 5 - 7 LE 8 EX 1 - 10 NU 39 - 2 LE 1 -
1 LE 1 - 5 LE 1 - 24 LE 1 - 1 LE 1 - 10 LE 1 EX 2 LE 9 EX 1 LE 2 - 5 LE 1 - 1 LE
1 - 7 EX 1 - 10 NU 2 - 4 LE 32 - 1 LE 23 - 2 EX 6 - 10 NU 11 - 1 EX 1 - 1 EX 1 -
1 EX 4 CL 2 EX 8 LE 1 - 36 LE 4 - 20 EX 1 - 2 EX 5 LE 11 EX 1 - 36 EX 9 - 1 EX
57 - 43 LE 20 EX 1 LE 10 NU 2 ST 4 - 6 LE 4 EX 4 LE 3 EX 1 LE 3 EX 2 LE 7 EX
3 LE 4 EX 13 LE 12 EX 1 LE 1 EX 10 NU 4 EX 2 - 38 UP 1 - 1 UP 5 - 1 UP 2 - 43 LE
1 - 1 LO 332 LE 1 - 4 LE 2 - 7 LE 1 - 1 LE 1 - 4 LE 2 - 41 LE 1 - 4 LE 2 - 33 LE
1 - 4 LE 2 - 7 LE 1 - 1 LE 1 - 4 LE 2 - 15 LE 1 - 57 LE 1 - 4 LE 2 - 67 LE 2 -
3 EX 2 - 1 ST 4 - 2 ST 23 - 16 LE 16 - 86 UP 2 - 6 LO 3 - 620 LE 1 - 1 ST 17 LE
1 SP 26 LE 2 CL 3 - 75 LE 3 - 11 LE 7 - 18 LE 4 EX 9 - 19 LE 3 EX 2 ST 9 - 18 LE
2 EX 12 - 13 LE 1 - 3 LE 1 - 2 EX 12 - 52 LE 32 EX 3 - 1 LE 4 - 1 LE 1 EX 2 -
10 NU 24 - 1 SC 1 ST 4 - 1 SC 1 ST 1 - 3 EX 1 FO 1 EX 10 NU 6 - 89 LE 7 - 5 LE
2 EX 34 LE 1 EX 1 LE 5 - 70 LE 10 - 31 LE 1 - 12 EX 4 - 12 EX 8 - 2 ST 10 NU
30 LE 2 - 5 LE 11 - 44 LE 4 - 26 LE 6 - 10 NU 38 - 23 LE 5 EX 4 - 53 LE 10 EX
1 - 29 EX 2 - 1 EX 10 NU 6 - 10 NU 13 - 1 LE 4 ST 4 - 31 EX 49 - 5 EX 47 LE
17 EX 8 LE 3 - 10 NU 2 ST 2 - 2 ST 11 - 9 EX 9 - 2 ST 1 - 3 EX 30 LE 13 EX 2 LE
10 NU 44 LE 14 EX 12 - 36 LE 20 EX 3 - 2 ST 3 - 10 NU 3 - 3 LE 10 NU 36 LE 2 ST
9 LO 7 - 43 LE 2 - 3 LE 16 - 3 EX 1 - 21 EX 4 LE 1 EX 6 LE 1 EX 2 LE 3 EX 1 LE
5 - 192 LO 64 EX 1 UP 1 LO 1 UP 1 LO 1 UP 1 LO 1 UP 1 LO 1 UP 1 LO 1 UP 1 LO
1 UP 1 LO 1 UP 1 LO 1 UP 1 LO 1 UP 1 LO 1 UP 1 LO 1 UP 1 LO 1 UP 1 LO 1 UP 1 LO
1 UP 1 LO 1 UP 1 LO 1 UP 1 LO 1 UP 1 LO 1 UP 1 LO 1 UP 1 LO 1 UP 1 LO 1 UP 1 LO
1 UP 1 LO 1 UP 1 LO 1 UP 1 LO 1 UP 1 LO 1 UP 1 LO 1 UP 1 LO 1 UP 1 LO 1 UP 1 LO
1 UP 1 LO 1 UP 1 LO 1 UP 1 LO 1 UP 1 LO 1 UP 1 LO 1 UP 1 LO 1 UP 1 LO 1 UP 1 LO
1 UP 1 LO 1 UP 1 LO 1 UP 1 LO 1 UP 1 LO 1 UP 1 LO 1 UP 1 LO 1 UP 1 LO 1 UP 1 LO
1 UP 1 LO 1 UP 1 LO 1 UP 1 LO 1 UP 1 LO 1 UP 1 LO 1 UP 1 LO 1 UP 1 LO 1 UP 1 LO
1 UP 1 LO 1 UP 1 LO 1 UP 1 LO 1 UP 1 LO 1 UP 1 LO 1 UP 1 LO 1 UP 1 LO 1 UP 1 LO
1 UP 1 LO 1 UP 1 LO 1 UP 1 LO 1 UP 1 LO 1 UP 1 LO 1 UP 1 LO 1 UP 1 LO 1 UP 1 LO
1 UP 1 LO 1 UP 1 LO 1 UP 1 LO 1 UP 1 LO 1 UP 9 LO 1 UP 1 LO 1 UP 1 LO 1 UP 1 LO
1 UP 1 LO 1 UP 1 LO 1 UP 1 LO 1 UP 1 LO 1 UP 1 LO 1 UP 1 LO 1 UP 1 LO 1 UP 1 LO
1 UP 1 LO 1 UP 1 LO 1 UP 1 LO 1 UP 1 LO 1 UP 1 LO 1 UP 1 LO 1 UP 1 LO 1 UP 1 LO
1 UP 1 LO 1 UP 1 LO 1 UP 1 LO 1 UP 1 LO 1 UP 1 LO 1 UP 1 LO 1 UP 1 LO 1 UP 1 LO
1 UP 1 LO 1 UP 1 LO 1 UP 1 LO 1 UP 1 LO 1 UP 1 LO 1 UP 1 LO 1 UP 1 LO 1 UP 1 LO
1 UP 1 LO 1 UP 1 LO 1 UP 1 LO 1 UP 1 LO 1 UP 1 LO 1 UP 1 LO 1 UP 1 LO 1 UP 1 LO
1 UP 1 LO 1 UP 1 LO 1 UP 1 LO 1 UP 1 LO 1 UP 1 LO 1 UP 9 LO 8 UP 6 LO 2 - 6 UP
2 - 8 LO 8 UP 8 LO 8 UP 6 LO 2 - 6 UP 2 - 8 LO 1 - 1 UP 1 - 1 UP 1 - 1 UP 1 -
1 UP 8 LO 8 UP 14 LO 2 - 8 LO 8 UP 8 LO 8 UP 8 LO 8 UP 5 LO 1 - 2 LO 5 UP 1 -
1 LO 3 - 3 LO 1 - 2 LO 5 UP 3 - 4 LO 2 - 2 LO 4 UP 4 - 8 LO 5 UP 5 - 3 LO 1 -
2 LO 5 UP 3 - 11 SP 1 FO 2 EX 2 FO 3 - 2 SC 3 - 8 CL 4 - 1 AT 3 - 2 SE 5 FO 1 SP
9 - 2 CL 1 - 2 ST 7 - 2 CL 3 ST 21 - 1 SP 5 FO 1 - 10 FO 1 - 1 LO 11 - 2 CL 1 LO
13 - 2 CL 1 - 13 LO 51 - 33 EX 17 - 1 UP 4 - 1 UP 2 - 1 LO 3 UP 2 LO 3 UP 1 LO
1 - 1 UP 3 - 5 UP 6 - 1 UP 1 - 1 UP 1 - 1 UP 1 - 4 UP 1 - 1 LO 4 UP 1 LO 4 LE
1 LO 2 - 2 LO 2 UP 5 - 1 UP 4 LO 4 - 1 LO 17 - 16 UP 16 LO 3 LE 1 UP 1 LO 4 LE
383 - 4 CL 29 - 2 CL 395 - 26 UP 26 LO 625 - 6 CL 7 - 14 CL 79 - 2 CL 31 - 10 CL
403 - 22 CL 63 - 4 CL 32 - 2 CL 514 - 48 UP 48 LO 1 UP 1 LO 3 UP 2 LO 1 UP 1 LO
1 UP 1 LO 1 UP 1 LO 4 UP 1 LO 1 UP 2 LO 1 UP 8 LO 3 UP 1 LO 1 UP 1 LO 1 UP 1 LO
1 UP 1 LO 1 UP 1 LO 1 UP 1 LO 1 UP 1 LO 1 UP 1 LO 1 UP 1 LO 1 UP 1 LO 1 UP 1 LO
1 UP 1 LO 1 UP 1 LO 1 UP 1 LO 1 UP 1 LO 1 UP 1 LO 1 UP 1 LO 1 UP 1 LO 1 UP 1 LO
1 UP 1 LO 1 UP 1 LO 1 UP 1 LO 1 UP 1 LO 1 UP 1 LO 1 UP 1 LO 1 UP 1 LO 1 UP 1 LO
1 UP 1 LO 1 UP 1 LO 1 UP 1 LO 1 UP 1 LO 1 UP 1 LO 1 UP 1 LO 1 UP 1 LO 1 UP 1 LO
1 UP 1 LO 1 UP 1 LO 1 UP 1 LO 1 UP 1 LO 1 UP 1 LO 1 UP 1 LO 1 UP 1 LO 1 UP 1 LO
1 UP 1 LO 1 UP 1 LO 1 UP 1 LO 1 UP 1 LO 1 UP 1 LO 1 UP 1 LO 1 UP 2 LO 6 - 1 UP
1 LO 1 UP 1 LO 3 EX 1 UP 1 LO 12 - 38 LO 1 - 1 LO 5 - 1 LO 2 - 56 LE 7 - 1 LE
15 - 1 EX 23 LE 9 - 7 LE 1 - 7 LE 1 - 7 LE 1 - 7 LE 1 - 7 LE 1 - 7 LE 1 - 7 LE
1 - 7 LE 1 - 32 EX 14 CL 14 - 2 CL 2 - 10 CL 4 - 1 ST 1 LE 12 - 1 ST 5 - 1 CL
16 - 2 ST 8 CL 419 - 1 SP 1 SC 1 ST 2 - 3 LE 10 CL 2 - 8 CL 1 - 3 CL 1 - 9 LE
6 EX 1 - 5 LE 2 - 5 LE 4 - 86 LE 2 - 2 EX 2 - 3 LE 1 - 90 LE 1 - 4 LE 5 - 43 LE
1 - 94 LE 17 - 32 LE 48 - 16 LE 512 - 6592 LE 64 - 22157 LE 67 - 46 LE 1 - 1 ST
269 LE 1 - 2 ST 16 LE 10 NU 2 LE 20 - 1 UP 1 LO 1 UP 1 LO 1 UP 1 LO 1 UP 1 LO
1 UP 1 LO 1 UP 1 LO 1 UP 1 LO 1 UP 1 LO 1 UP 1 LO 1 UP 1 LO 1 UP 1 LO 1 UP 1 LO
1 UP 1 LO 1 UP 1 LO 1 UP 1 LO 1 UP 1 LO 1 UP 1 LO 1 UP 1 LO 1 UP 1 LO 1 UP 1 LO
1 UP 1 LO 1 UP 1 LO 1 UP 1 LO 1 LE 4 EX 1 - 10 EX 1 - 1 LE 1 UP 1 LO 1 UP 1 LO
1 UP 1 LO 1 UP 1 LO 1 UP 1 LO 1 UP 1 LO 1 UP 1 LO 1 UP 1 LO 1 UP 1 LO 1 UP 1 LO
1 UP 1 LO 1 UP 1 LO 1 UP 1 LO 1 UP 3 LO 2 EX 80 LE 2 EX 1 - 1 ST 3 - 1 ST 31 -
9 LE 2 - 1 UP 1 LO 1 UP 1 LO 1 UP 1 LO 1 UP 1 LO 1 UP 1 LO 1 UP 1 LO 1 UP 3 LO
1 UP 1 LO 1 UP 1 LO 1 UP 1 LO 1 UP 1 LO 1 UP 1 LO 1 UP 1 LO 1 UP 1 LO 1 UP 1 LO
1 UP 1 LO 1 UP 1 LO 1 UP 1 LO 1 UP 1 LO 1 UP 1 LO 1 UP 1 LO 1 UP 1 LO 1 UP 1 LO
1 UP 1 LO 1 UP 1 LO 1 UP 1 LO 1 UP 1 LO 1 UP 1 LO 1 UP 1 LO 1 UP 1 LO 1 UP 1 LO
1 UP 1 LO 1 UP 1 LO 1 UP 1 LO 1 UP 1 LO 1 UP 1 LO 1 UP 1 LO 1 UP 10 LO 1 UP 1 LO
1 UP 1 LO 2 UP 1 LO 1 UP 1 LO 1 UP 1 LO 1 UP 1 LO 1 UP 1 LO 1 LE 2 - 1 UP 1 LO
1 UP 1 LO 1 LE 1 UP 1 LO 1 UP 3 LO 1 UP 1 LO 1 UP 1 LO 1 UP 1 LO 1 UP 1 LO 1 UP
1 LO 1 UP 1 LO 1 UP 1 LO 1 UP 1 LO 1 UP 1 LO 1 UP 1 LO 5 UP 1 LO 5 UP 1 LO 1 UP
1 LO 1 UP 1 LO 1 UP 1 LO 1 UP 1 LO 1 UP 1 LO 1 UP 1 LO 1 UP 1 LO 4 UP 1 LO 1 UP
1 LO 5 - 1 UP 1 LO 1 - 1 LO 1 - 1 LO 1 UP 1 LO 1 UP 1 LO 24 - 3 LO 1 UP 1 LO
1 LE 3 LO 7 LE 1 EX 3 LE 1 EX 4 LE 1 EX 23 LE 5 EX 4 - 1 EX 19 - 52 LE 2 - 2 ST
8 - 2 EX 50 LE 18 EX 8 - 2 ST 10 NU 6 - 18 EX 6 LE 3 - 1 LE 1 - 2 LE 1 EX 10 NU
28 LE 8 EX 1 - 1 ST 23 LE 13 EX 12 - 29 LE 3 - 4 EX 47 LE 14 EX 7 - 2 ST 5 -
1 LE 10 NU 6 - 5 LE 1 EX 10 LE 10 NU 5 LE 1 - 41 LE 14 EX 9 - 3 LE 1 EX 8 LE
2 EX 2 - 10 NU 3 - 3 ST 23 LE 3 - 1 LE 3 EX 50 LE 1 EX 1 LE 3 EX 2 LE 2 EX 5 LE
2 EX 1 LE 1 EX 1 LE 24 - 3 LE 2 - 11 LE 5 EX 2 ST 3 LE 2 EX 10 - 6 LE 2 - 6 LE
2 - 6 LE 9 - 7 LE 1 - 7 LE 1 - 43 LO 1 - 14 LO 6 - 80 LO 35 LE 8 EX 1 ST 2 EX
2 - 10 NU 6 - 11172 LE 12 - 23 LE 4 - 49 LE 8452 - 366 LE 2 - 106 LE 38 - 7 LO
12 - 5 LO 5 - 1 LE 1 EX 10 LE 1 - 13 LE 1 - 5 LE 1 - 1 LE 1 - 2 LE 1 - 2 LE 1 -
108 LE 33 - 363 LE 2 CL 16 - 64 LE 2 - 54 LE 40 - 12 LE 4 - 16 EX 2 SC 1 - 1 SC
3 - 2 CL 7 - 16 EX 1 - 2 SC 2 - 16 CL 2 - 2 CL 7 - 2 SC 1 AT 2 - 1 SC 2 ST 1 SC
6 CL 4 - 1 SC 12 - 5 LE 1 - 135 LE 2 - 1 FO 1 - 1 ST 6 - 2 CL 2 - 2 SC 1 AT 1 -
10 NU 1 SC 4 - 1 ST 1 - 26 UP 1 CL 1 - 1 CL 3 - 26 LO 1 CL 1 - 1 CL 1 - 2 CL
1 ST 2 CL 1 SC 1 - 56 LE 2 EX 31 LE 3 - 6 LE 2 - 6 LE 2 - 6 LE 2 - 3 LE 28 -
3 FO 4 - 12 LE 1 - 26 LE 1 - 19 LE 1 - 2 LE 1 - 15 LE 2 - 14 LE 34 - 123 LE 69 -
53 LE 136 - 1 EX 130 - 29 LE 3 - 49 LE 15 - 1 EX 31 - 32 LE 13 - 30 LE 5 - 38 LE
5 EX 5 - 30 LE 2 - 36 LE 4 - 8 LE 1 - 5 LE 42 - 40 UP 40 LO 78 LE 2 - 10 NU 6 -
36 UP 4 - 36 LO 4 - 40 LE 8 - 52 LE 12 - 11 UP 1 - 15 UP 1 - 7 UP 1 - 2 UP 1 -
11 LO 1 - 15 LO 1 - 7 LO 1 - 2 LO 67 - 311 LE 9 - 22 LE 10 - 8 LE 24 - 1 LO 2 LE
3 LO 1 - 42 LO 1 - 9 LO 69 - 6 LE 2 - 1 LE 1 - 44 LE 1 - 2 LE 3 - 1 LE 2 - 23 LE
10 - 23 LE 9 - 31 LE 65 - 19 LE 1 - 2 LE 10 - 22 LE 10 - 26 LE 70 - 56 LE 6 -
2 LE 64 - 1 LE 3 EX 1 - 2 EX 5 - 4 EX 4 LE 1 - 3 LE 1 - 29 LE 2 - 3 EX 4 - 1 EX
22 - 2 ST 8 - 29 LE 3 - 29 LE 35 - 8 LE 1 - 28 LE 2 EX 25 - 54 LE 10 - 22 LE
10 - 19 LE 13 - 18 LE 110 - 73 LE 55 - 51 UP 13 - 51 LO 13 - 36 LE 4 EX 8 -
10 NU 326 - 42 LE 1 - 2 EX 3 - 2 LE 75 - 3 EX 29 LE 10 - 1 LE 8 - 22 LE 11 EX
4 - 5 ST 22 - 18 LE 4 EX 4 ST 38 - 21 LE 27 - 23 LE 9 - 3 EX 53 LE 15 EX 2 ST
29 - 10 NU 1 EX 2 LE 2 EX 1 LE 9 - 4 EX 45 LE 11 EX 2 - 1 FO 4 ST 1 EX 10 - 1 FO
2 - 25 LE 7 - 10 NU 6 - 3 EX 36 LE 14 EX 1 - 10 NU 1 - 3 ST 1 LE 2 EX 1 LE 8 -
35 LE 1 EX 2 - 1 LE 9 - 3 EX 48 LE 14 EX 4 LE 2 ST 2 - 4 EX 1 ST 2 EX 10 NU 1 LE
1 - 1 LE 1 - 2 ST 32 - 18 LE 1 - 25 LE 12 EX 2 ST 1 - 2 ST 1 - 1 EX 2 LE 1 EX
62 - 7 LE 1 - 1 LE 1 - 4 LE 1 - 15 LE 1 - 10 LE 1 ST 6 - 47 LE 12 EX 5 - 10 NU
6 - 4 EX 1 - 8 LE 2 - 2 LE 2 - 22 LE 1 - 7 LE 1 - 2 LE 1 - 5 LE 1 - 2 EX 1 LE
7 EX 2 - 2 EX 2 - 3 EX 2 - 1 LE 6 - 1 EX 5 - 5 LE 2 EX 2 - 7 EX 3 - 5 EX 139 -
53 LE 18 EX 4 LE 2 ST 3 - 10 NU 4 - 1 EX 3 LE 30 - 48 LE 20 EX 2 LE 1 - 1 LE 8 -
10 NU 166 - 47 LE 7 EX 2 - 9 EX 1 - 2 ST 5 - 15 ST 4 LE 2 EX 34 - 48 LE 17 EX
2 ST 1 - 1 LE 11 - 10 NU 38 - 43 LE 13 EX 1 LE 7 - 10 NU 54 - 27 LE 2 - 15 EX
4 - 10 NU 2 - 3 ST 1 - 7 LE 185 - 44 LE 15 EX 101 - 32 UP 32 LO 10 NU 21 - 8 LE
2 - 1 LE 2 - 8 LE 1 - 2 LE 1 - 24 LE 6 EX 1 - 2 EX 2 - 4 EX 1 LE 1 EX 1 LE 2 EX
1 ST 1 - 1 ST 9 - 10 NU 70 - 8 LE 2 - 39 LE 7 EX 2 - 7 EX 1 LE 1 - 1 LE 1 EX
27 - 1 LE 10 EX 40 LE 7 EX 1 LE 4 EX 3 - 2 ST 3 - 1 EX 8 - 1 LE 11 EX 46 LE
16 EX 1 - 2 ST 1 LE 18 - 73 LE 263 - 9 LE 1 - 37 LE 8 EX 1 - 8 EX 1 LE 2 ST 13 -
10 NU 24 - 30 LE 2 - 22 EX 1 - 14 EX 73 - 7 LE 1 - 2 LE 1 - 38 LE 6 EX 3 - 1 EX
1 - 2 EX 1 - 7 EX 1 LE 1 EX 8 - 10 NU 6 - 6 LE 1 - 2 LE 1 - 32 LE 5 EX 1 - 2 EX
1 - 5 EX 1 LE 7 - 10 NU 310 - 19 LE 4 EX 2 ST 7 - 2 EX 1 LE 1 EX 13 LE 1 - 34 LE
7 EX 3 - 5 EX 2 ST 11 - 10 NU 86 - 1 LE 79 - 922 LE 102 - 111 LE 17 - 196 LE
2636 - 97 LE 15 - 1072 LE 16 FO 1 EX 6 LE 15 EX 4010 - 583 LE 8633 - 569 LE 7 -
31 LE 1 - 10 NU 4 - 2 ST 79 LE 1 - 10 NU 6 - 30 LE 2 - 5 EX 1 ST 10 - 48 LE 7 EX
2 ST 7 - 4 LE 1 ST 11 - 10 NU 9 - 21 LE 5 - 19 LE 688 - 32 UP 32 LO 24 - 1 ST
103 - 75 LE 4 - 1 EX 1 LE 55 EX 7 - 4 EX 13 LE 64 - 2 LE 1 - 1 LE 1 EX 11 - 2 EX
14 - 6136 LE 8 - 1238 LE 42 - 9 LE 8935 - 4 LE 1 - 7 LE 1 - 2 LE 1 - 291 LE 15 -
1 LE 29 - 3 LE 2 - 1 LE 14 - 4 LE 8 - 396 LE 2308 - 107 LE 5 - 13 LE 3 - 9 LE
7 - 10 LE 3 - 2 EX 1 ST 4 FO 4700 - 46 EX 2 - 23 EX 542 - 5 EX 3 - 6 EX 8 FO
8 EX 2 - 7 EX 30 - 4 EX 148 - 3 EX 443 - 26 UP 26 LO 26 UP 7 LO 1 - 18 LO 26 UP
26 LO 1 UP 1 - 2 UP 2 - 1 UP 2 - 2 UP 2 - 4 UP 1 - 8 UP 4 LO 1 - 1 LO 1 - 7 LO
1 - 11 LO 26 UP 26 LO 2 UP 1 - 4 UP 2 - 8 UP 1 - 7 UP 1 - 26 LO 2 UP 1 - 4 UP
1 - 5 UP 1 - 1 UP 3 - 7 UP 1 - 26 LO 26 UP 26 LO 26 UP 26 LO 26 UP 26 LO 26 UP
26 LO 26 UP 26 LO 26 UP 28 LO 2 - 25 UP 1 - 25 LO 1 - 6 LO 25 UP 1 - 25 LO 1 -
6 LO 25 UP 1 - 25 LO 1 - 6 LO 25 UP 1 - 25 LO 1 - 6 LO 25 UP 1 - 25 LO 1 - 6 LO
1 UP 1 LO 2 - 50 NU 512 - 55 EX 4 - 50 EX 8 - 1 EX 14 - 1 EX 3 - 1 ST 18 - 5 EX
1 - 15 EX 1104 - 10 LO 1 LE 20 LO 6 - 6 LO 213 - 7 EX 1 - 17 EX 2 - 7 EX 1 -
2 EX 1 - 5 EX 5 - 62 LO 33 - 1 EX 112 - 45 LE 3 - 7 EX 7 LE 2 - 10 NU 4 - 1 LE
321 - 30 LE 1 EX 17 - 44 LE 4 EX 10 NU 470 - 28 LE 4 EX 10 NU 742 - 7 LE 1 -
4 LE 1 - 2 LE 1 - 15 LE 1 - 197 LE 11 - 7 EX 41 - 34 UP 34 LO 7 EX 1 LE 4 -
10 NU 1190 - 4 LE 1 - 27 LE 1 - 2 LE 1 - 1 LE 2 - 1 LE 1 - 10 LE 1 - 4 LE 1 -
1 LE 1 - 1 LE 6 - 1 LE 4 - 1 LE 1 - 1 LE 1 - 1 LE 1 - 3 LE 1 - 2 LE 1 - 1 LE 2 -
1 LE 1 - 1 LE 1 - 1 LE 1 - 1 LE 1 - 1 LE 1 - 2 LE 1 - 1 LE 2 - 4 LE 1 - 7 LE 1 -
4 LE 1 - 4 LE 1 - 1 LE 1 - 10 LE 1 - 17 LE 5 - 3 LE 1 - 5 LE 1 - 17 LE 628 -
26 UP 6 - 26 UP 6 - 26 UP 1260 - 3 CL 1399 - 10 NU 1030 - 42720 LE 32 - 4154 LE
6 - 222 LE 2 - 5762 LE 14 - 7473 LE 3103 - 542 LE 1506 - 4939 LE 5 - 4192 LE
711761 - 1 FO 30 - 96 EX 128 - 240 EX"

/-- The code of each class of `graphemes` and the names it goes by. -/
def graphemesNames : List (String × List String) := [
  ("CN", ["cn", "control"]),
  ("CR", ["cr"]),
  ("EX", ["ex", "extend"]),
  ("L", ["l"]),
  ("LF", ["lf"]),
  ("LV", ["lv"]),
  ("LVT", ["lvt"]),
  ("PP", ["pp", "prepend"]),
  ("RI", ["ri", "regionalindicator"]),
  ("SM", ["sm", "spacingmark"]),
  ("T", ["t"]),
  ("V", ["v"]),
  ("ZWJ", ["zwj"])]

/-- The code of each class of `words` and the names it goes by. -/
def wordsNames : List (String × List String) := [
  ("CR", ["cr"]),
  ("DQ", ["dq", "doublequote"]),
  ("EX", ["ex", "extendnumlet"]),
  ("Extend", ["extend"]),
  ("FO", ["fo", "format"]),
  ("HL", ["hl", "hebrewletter"]),
  ("KA", ["ka", "katakana"]),
  ("LE", ["le", "aletter"]),
  ("LF", ["lf"]),
  ("MB", ["mb", "midnumlet"]),
  ("ML", ["ml", "midletter"]),
  ("MN", ["mn", "midnum"]),
  ("NL", ["nl", "newline"]),
  ("NU", ["nu", "numeric"]),
  ("RI", ["ri", "regionalindicator"]),
  ("SQ", ["sq", "singlequote"]),
  ("WSegSpace", ["wsegspace"]),
  ("ZWJ", ["zwj"])]

/-- The code of each class of `sentences` and the names it goes by. -/
def sentencesNames : List (String × List String) := [
  ("AT", ["at", "aterm"]),
  ("CL", ["cl", "close"]),
  ("CR", ["cr"]),
  ("EX", ["ex", "extend"]),
  ("FO", ["fo", "format"]),
  ("LE", ["le", "oletter"]),
  ("LF", ["lf"]),
  ("LO", ["lo", "lower"]),
  ("NU", ["nu", "numeric"]),
  ("SC", ["sc", "scontinue"]),
  ("SE", ["se", "sep"]),
  ("SP", ["sp"]),
  ("ST", ["st", "sterm"]),
  ("UP", ["up", "upper"])]

/-- The class that goes by `name` in a property given by its runs and names. -/
def named? (runs : Runs) (names : List (String × List String)) (name : Text) :
    Option CodeSet :=
  (names.find? fun s => s.2.any (·.toList = name)).map fun s =>
    runs.having [s.1.toList]

end Stubgen.Segmentation
