import Stubgen.Unicode.CodeSet

/-!
# Ages

The version of the character database in which each code point was assigned.
The class of a version holds the code points assigned in that version or an
earlier one.
-/

namespace Stubgen.Age

/-- The version that assigned each code point, as runs of one version; `-`
stands for none. -/
def runs : Runs := Runs.read "
502 1.1 4 3.0 30 1.1 8 3.0 1 3.2 1 4.0 18 3.0 3 4.0 11 4.1 14 5.0 89 1.1 5 3.0
2 4.0 47 1.1 1 3.0 10 1.1 5 3.0 17 4.0 70 1.1 9 3.0 1 3.2 8 4.0 5 4.1 3 4.0
2 1.1 1 3.0 13 3.2 4 5.1 2 1.1 2 5.1 2 - 1 1.1 3 5.0 1 1.1 1 7.0 4 - 7 1.1 1 -
1 1.1 1 - 20 1.1 1 - 44 1.1 1 5.1 7 1.1 1 3.0 2 3.2 1 1.1 1 3.0 1 1.1 1 3.0
1 1.1 1 3.0 1 1.1 1 3.0 18 1.1 2 3.1 1 3.2 5 4.0 4 4.1 1 3.0 12 1.1 1 3.0 66 1.1
1 3.0 12 1.1 1 3.0 41 1.1 1 5.1 2 3.0 2 3.2 4 3.0 53 1.1 2 3.2 2 1.1 2 3.2 2 1.1
2 3.2 1 5.0 28 1.1 2 3.0 8 1.1 2 4.1 2 1.1 6 5.0 16 3.2 4 5.0 16 5.1 2 5.2 2 6.0
8 7.0 1 - 38 1.1 2 - 7 1.1 1 11.0 39 1.1 1 11.0 1 1.1 1 3.0 2 - 2 7.0 1 6.1 1 -
17 2.0 1 4.1 13 2.0 10 1.1 1 5.0 9 1.1 1 2.0 3 4.1 8 - 27 1.1 4 - 1 11.0 5 1.1
11 - 4 4.0 1 6.1 1 7.0 5 5.1 1 4.1 1 1.1 9 4.0 5 5.1 1 1.1 1 6.3 1 14.0 1 4.1
1 1.1 1 6.0 26 1.1 5 5.1 19 1.1 3 3.0 3 4.0 6 4.1 1 6.0 14 1.1 2 3.2 72 1.1
2 3.0 5 1.1 1 3.0 15 1.1 1 3.0 30 1.1 2 4.0 10 1.1 5 3.0 1 4.0 14 3.0 1 - 30 3.0
3 4.0 27 3.0 2 - 3 4.0 30 4.1 18 5.1 49 3.0 1 3.2 14 - 59 5.0 2 - 3 11.0 46 5.2
2 - 15 5.2 1 - 28 6.0 2 - 1 6.0 1 - 11 10.0 5 - 31 14.0 1 - 2 14.0 6 - 8 14.0
1 6.1 1 7.0 11 6.1 6 7.0 2 8.0 1 14.0 8 9.0 10 13.0 11 14.0 1 11.0 15 9.0 1 8.0
27 6.1 1 7.0 1 5.2 3 1.1 1 4.0 53 1.1 2 6.0 18 1.1 1 5.2 1 6.0 5 1.1 1 5.2 2 6.0
25 1.1 2 5.1 5 6.0 1 7.0 2 5.2 2 5.0 1 4.1 2 5.0 1 7.0 3 1.1 1 - 8 1.1 2 - 2 1.1
2 - 22 1.1 1 - 7 1.1 1 - 1 1.1 3 - 4 1.1 2 - 1 1.1 1 4.0 7 1.1 2 - 2 1.1 2 -
3 1.1 1 4.1 8 - 1 1.1 4 - 2 1.1 1 - 5 1.1 2 - 21 1.1 1 5.2 2 10.0 1 11.0 2 -
1 4.0 1 1.1 1 4.0 1 - 6 1.1 4 - 2 1.1 2 - 22 1.1 1 - 7 1.1 1 - 2 1.1 1 - 2 1.1
1 - 2 1.1 2 - 1 1.1 1 - 5 1.1 4 - 2 1.1 2 - 3 1.1 3 - 1 5.1 7 - 4 1.1 1 - 1 1.1
7 - 15 1.1 1 5.1 1 11.0 10 - 3 1.1 1 - 7 1.1 1 4.0 1 1.1 1 - 3 1.1 1 - 22 1.1
1 - 7 1.1 1 - 2 1.1 1 - 5 1.1 2 - 10 1.1 1 - 3 1.1 1 - 3 1.1 2 - 1 1.1 15 -
1 1.1 3 4.0 2 - 10 1.1 1 6.1 1 4.0 7 - 1 8.0 6 10.0 1 - 3 1.1 1 - 8 1.1 2 -
2 1.1 2 - 22 1.1 1 - 7 1.1 1 - 2 1.1 1 - 1 4.0 4 1.1 2 - 8 1.1 1 5.1 2 - 2 1.1
2 - 3 1.1 7 - 1 13.0 2 1.1 4 - 2 1.1 1 - 3 1.1 2 5.1 2 - 11 1.1 1 4.0 6 6.0 10 -
2 1.1 1 - 6 1.1 3 - 3 1.1 1 - 4 1.1 3 - 2 1.1 1 - 1 1.1 1 - 2 1.1 3 - 2 1.1 3 -
3 1.1 3 - 8 1.1 1 4.1 3 1.1 4 - 5 1.1 3 - 3 1.1 1 - 4 1.1 2 - 1 5.1 6 - 1 1.1
14 - 1 4.1 12 1.1 8 4.0 5 - 1 7.0 3 1.1 1 11.0 8 1.1 1 - 3 1.1 1 - 23 1.1 1 -
10 1.1 1 7.0 5 1.1 2 - 1 14.0 1 5.1 7 1.1 1 - 3 1.1 1 - 4 1.1 7 - 2 1.1 1 -
2 5.1 1 8.0 2 - 1 14.0 2 - 2 1.1 2 5.1 2 - 10 1.1 7 - 1 12.0 8 5.1 1 9.0 1 7.0
2 1.1 1 11.0 8 1.1 1 - 3 1.1 1 - 23 1.1 1 - 10 1.1 1 - 5 1.1 2 - 2 4.0 7 1.1 1 -
3 1.1 1 - 4 1.1 7 - 2 1.1 6 - 1 14.0 1 1.1 1 - 2 1.1 2 5.0 2 - 10 1.1 1 - 2 5.0
1 15.0 12 - 1 10.0 1 7.0 2 1.1 1 13.0 8 1.1 1 - 3 1.1 1 - 23 1.1 1 6.0 16 1.1
1 6.0 2 10.0 1 5.1 6 1.1 1 5.1 1 - 3 1.1 1 - 4 1.1 1 6.0 1 9.0 4 - 3 9.0 1 1.1
7 9.0 1 8.0 2 1.1 2 5.1 2 - 10 1.1 6 5.1 3 9.0 7 5.1 1 - 1 13.0 2 3.0 1 - 18 3.0
3 - 24 3.0 1 - 9 3.0 1 - 1 3.0 2 - 7 3.0 3 - 1 3.0 4 - 6 3.0 1 - 1 3.0 1 - 8 3.0
6 - 10 7.0 2 - 3 3.0 12 - 58 1.1 4 - 29 1.1 37 - 2 1.1 1 - 1 1.1 1 - 1 12.0
2 1.1 1 12.0 1 1.1 1 - 1 12.0 1 1.1 6 12.0 4 1.1 1 12.0 7 1.1 1 12.0 3 1.1 1 -
1 1.1 1 - 1 1.1 2 12.0 2 1.1 1 12.0 13 1.1 1 12.0 3 1.1 2 - 5 1.1 1 - 1 1.1 1 -
6 1.1 1 15.0 1 - 10 1.1 2 - 2 1.1 2 6.1 32 - 72 2.0 1 - 33 2.0 1 3.0 2 5.1 4 -
27 2.0 4 6.0 6 2.0 1 3.0 1 2.0 1 - 21 2.0 3 3.0 7 2.0 1 3.0 1 2.0 3 3.0 1 -
15 3.0 1 - 1 5.1 1 3.0 2 4.1 3 5.1 4 5.2 2 6.0 37 - 34 3.0 1 5.1 5 3.0 1 5.1
2 3.0 1 5.1 7 3.0 3 5.1 4 3.0 6 5.1 26 3.0 64 5.1 4 5.2 2 5.1 38 1.1 1 - 1 6.1
5 - 1 6.1 2 - 39 1.1 2 3.2 2 4.1 1 1.1 1 4.1 3 6.1 90 1.1 5 5.2 68 1.1 5 5.2
82 1.1 6 5.2 7 3.0 1 4.1 63 3.0 1 4.1 1 3.0 1 - 4 3.0 2 - 7 3.0 1 - 1 3.0 1 -
4 3.0 2 - 39 3.0 1 4.1 1 3.0 1 - 4 3.0 2 - 31 3.0 1 4.1 1 3.0 1 - 4 3.0 2 -
7 3.0 1 - 1 3.0 1 - 4 3.0 2 - 7 3.0 1 4.1 7 3.0 1 - 23 3.0 1 4.1 31 3.0 1 4.1
1 3.0 1 - 4 3.0 2 - 7 3.0 1 4.1 39 3.0 1 4.1 19 3.0 2 - 2 6.0 2 4.1 28 3.0 3 -
26 4.1 6 - 85 3.0 1 8.0 2 - 6 8.0 2 - 1 5.2 630 3.0 9 5.2 29 3.0 3 - 81 3.0
8 7.0 7 - 13 3.2 1 14.0 7 3.2 1 14.0 9 - 1 14.0 23 3.2 9 - 20 3.2 12 - 13 3.2
1 - 3 3.2 1 - 2 3.2 12 - 93 3.0 1 4.0 2 - 10 3.0 6 - 10 4.0 6 - 15 3.0 1 14.0
10 3.0 6 - 88 3.0 1 11.0 7 - 42 3.0 1 5.1 5 - 70 5.2 10 - 29 4.0 2 7.0 1 -
12 4.0 4 - 12 4.0 4 - 1 4.0 3 - 42 4.0 2 - 5 4.0 11 - 42 4.1 2 5.2 4 - 26 4.1
6 - 10 4.1 1 5.2 3 - 2 4.1 32 4.0 28 4.1 2 - 2 4.1 63 5.2 1 - 29 5.2 2 - 11 5.2
6 - 10 5.2 6 - 14 5.2 2 - 15 7.0 2 13.0 14 14.0 49 - 76 5.0 1 14.0 3 - 45 5.0
2 14.0 1 - 43 5.1 3 6.1 12 5.1 6 6.1 52 6.0 8 - 4 6.0 56 5.1 3 - 15 5.1 3 -
51 5.1 9 9.0 7 - 43 11.0 2 - 3 11.0 8 6.1 8 - 35 5.2 4 6.1 1 10.0 2 7.0 1 12.0
5 - 108 4.0 88 4.1 7 5.0 28 5.1 15 7.0 4 10.0 1 14.0 1 9.0 1 6.0 1 5.2 2 5.0
155 1.1 1 2.0 4 5.1 90 1.1 6 5.1 22 1.1 2 - 6 1.1 2 - 38 1.1 2 - 6 1.1 2 - 8 1.1
1 - 1 1.1 1 - 1 1.1 1 - 1 1.1 1 - 31 1.1 2 - 53 1.1 1 - 15 1.1 1 - 14 1.1 2 -
6 1.1 1 - 19 1.1 2 - 3 1.1 1 - 9 1.1 1 - 47 1.1 1 3.0 23 1.1 1 3.2 6 3.0 5 3.2
2 4.0 2 4.1 1 3.2 7 4.1 5 3.2 1 5.1 1 - 4 6.3 7 1.1 1 3.2 2 - 27 1.1 1 - 5 4.1
8 6.0 3 - 11 1.1 1 2.0 1 2.1 3 3.0 2 3.2 4 4.1 3 5.2 1 6.0 1 6.2 3 7.0 1 8.0
1 10.0 1 14.0 15 - 18 1.1 2 3.0 7 3.2 1 4.1 4 5.0 1 5.1 15 - 57 1.1 2 3.0 1 4.0
1 4.1 15 3.2 1 4.1 2 5.0 1 5.1 3 5.2 48 1.1 1 3.0 1 5.0 4 5.1 1 5.2 2 8.0 4 -
91 1.1 9 3.0 12 3.2 242 1.1 14 3.2 1 1.1 1 3.0 121 1.1 1 3.0 1 3.2 30 3.0 52 3.2
2 4.0 11 4.1 12 5.0 1 5.2 11 6.0 7 7.0 4 9.0 1 10.0 37 1.1 2 3.0 25 - 11 1.1
21 - 139 1.1 20 3.2 1 4.0 150 1.1 10 3.2 80 1.1 8 3.0 8 3.2 20 1.1 2 4.0 2 3.2
1 4.1 1 3.0 86 1.1 2 3.0 12 3.2 2 4.1 10 3.2 8 4.0 11 4.1 1 5.1 2 5.2 2 4.0
16 4.1 1 5.0 10 5.1 3 5.2 4 5.1 10 5.2 1 6.0 19 5.2 1 6.0 1 5.2 4 6.0 24 5.2
1 7.0 4 1.1 1 6.0 4 1.1 2 6.0 28 1.1 1 6.0 35 1.1 1 6.0 1 1.1 1 6.0 4 1.1 3 6.0
1 1.1 1 5.2 7 1.1 2 6.0 7 1.1 14 3.2 31 1.1 3 6.0 24 1.1 1 6.0 14 1.1 1 6.0
7 4.1 4 5.0 1 6.1 1 5.1 1 6.1 2 6.0 28 3.2 4 5.1 16 3.2 256 3.0 512 3.2 14 4.0
6 4.1 7 5.0 5 5.1 4 5.0 41 5.1 3 7.0 5 5.1 5 5.2 26 7.0 2 - 32 7.0 1 - 1 13.0
34 7.0 3 11.0 12 7.0 1 12.0 8 7.0 1 10.0 25 11.0 4 8.0 15 11.0 1 12.0 47 4.1
1 14.0 47 4.1 1 14.0 13 5.0 3 5.1 1 5.2 3 5.1 4 5.0 6 5.1 2 5.2 107 4.1 7 5.2
2 6.1 5 - 45 4.1 1 - 1 6.1 5 - 1 6.1 2 - 54 4.1 2 6.1 7 - 1 4.1 1 6.0 14 - 1 6.0
23 4.1 9 - 7 4.1 1 - 7 4.1 1 - 7 4.1 1 - 7 4.1 1 - 7 4.1 1 - 7 4.1 1 - 7 4.1 1 -
7 4.1 1 - 32 5.1 24 4.1 4 5.1 2 4.1 19 5.1 1 5.2 10 6.1 7 7.0 2 9.0 5 10.0
5 11.0 1 12.0 3 13.0 11 14.0 34 - 26 3.0 1 - 89 3.0 12 - 214 3.0 26 - 12 3.0 4 -
56 1.1 3 3.0 3 3.2 1 3.0 1 1.1 1 - 84 1.1 2 3.2 2 - 6 1.1 2 3.2 94 1.1 1 3.2 5 -
40 1.1 1 5.1 1 10.0 1 11.0 1 - 94 1.1 1 - 16 1.1 24 3.0 3 6.0 5 13.0 16 4.1
20 5.1 12 - 16 3.2 29 1.1 2 4.0 1 - 36 1.1 12 5.2 1 4.0 15 3.2 28 1.1 2 4.0
1 4.1 50 1.1 15 3.2 12 1.1 4 4.0 47 1.1 1 12.1 119 1.1 4 4.0 99 1.1 2 4.0 31 1.1
1 4.0 6582 3.0 10 13.0 64 4.0 20902 1.1 22 4.1 8 5.1 8 5.2 1 6.1 9 8.0 21 10.0
5 11.0 13 13.0 3 14.0 1165 3.0 3 - 18 3.0 2 3.2 16 3.0 1 3.2 12 3.0 1 3.2 3 3.0
1 3.2 1 3.0 9 - 48 5.2 300 5.1 20 - 32 5.1 2 6.0 18 5.1 8 6.1 28 5.1 6 7.0 1 8.0
1 6.1 88 5.2 8 - 23 4.1 4 5.0 5 5.1 2 5.0 107 5.1 2 6.0 1 8.0 2 6.0 2 6.1 12 7.0
10 6.0 1 6.1 3 7.0 1 9.0 1 11.0 2 7.0 6 8.0 2 11.0 6 12.0 2 14.0 5 12.0 4 13.0
5 - 2 14.0 1 - 1 14.0 1 - 5 14.0 24 - 3 14.0 2 13.0 1 7.0 2 6.1 1 6.0 5 5.1
44 4.1 1 13.0 3 - 10 5.2 6 - 56 5.0 8 - 69 5.1 1 9.0 8 - 12 5.1 6 - 28 5.2 2 8.0
2 11.0 84 5.1 11 - 1 5.1 29 5.2 3 - 78 5.2 1 - 11 5.2 4 - 2 5.2 31 7.0 1 -
55 5.1 9 - 14 5.1 2 - 10 5.1 2 - 4 5.1 28 5.2 4 7.0 67 5.2 24 - 5 5.2 23 6.1
10 - 6 6.0 2 - 6 6.0 2 - 6 6.0 9 - 7 6.0 1 - 7 6.0 1 - 48 7.0 4 8.0 2 7.0 2 12.0
4 13.0 4 - 80 8.0 46 5.2 2 - 10 5.2 6 - 11172 2.0 12 - 23 5.2 4 - 49 5.2 4 -
2048 2.0 6702 1.1 2 6.1 59 3.2 3 5.2 2 - 106 4.1 38 - 7 1.1 12 - 5 1.1 5 - 1 3.0
25 1.1 1 - 5 1.1 1 - 1 1.1 1 - 2 1.1 1 - 2 1.1 1 - 108 1.1 16 6.0 1 14.0 16 -
365 1.1 16 14.0 64 1.1 2 - 54 1.1 7 - 1 14.0 32 3.1 12 1.1 1 3.2 1 4.0 2 14.0
16 3.2 10 4.1 6 - 4 1.1 3 5.1 7 7.0 2 8.0 21 1.1 2 3.2 2 4.0 10 1.1 1 - 19 1.1
1 - 4 1.1 4 - 3 1.1 1 3.2 1 1.1 1 - 135 1.1 2 - 1 1.1 1 - 94 1.1 2 3.2 94 1.1
3 - 6 1.1 2 - 6 1.1 2 - 6 1.1 2 - 3 1.1 3 - 7 1.1 1 - 7 1.1 10 - 3 3.0 1 2.1
3 1.1 12 4.0 1 - 26 4.0 1 - 19 4.0 1 - 2 4.0 1 - 15 4.0 2 - 14 4.0 34 - 123 4.0
5 - 3 4.0 4 - 45 4.0 3 - 9 4.0 75 4.1 2 7.0 2 9.0 1 - 12 5.1 1 13.0 3 - 1 7.0
47 - 46 5.1 130 - 29 5.1 3 - 49 5.1 15 - 28 7.0 4 - 31 3.1 1 7.0 4 3.1 9 -
3 10.0 27 3.1 5 - 43 7.0 5 - 30 4.0 1 - 1 4.0 36 4.1 4 - 14 4.1 42 - 38 3.1
2 4.0 38 3.1 80 4.0 2 - 10 4.0 6 - 36 9.0 4 - 36 9.0 4 - 40 7.0 8 - 52 7.0 11 -
1 7.0 11 14.0 1 - 15 14.0 1 - 7 14.0 1 - 2 14.0 1 - 11 14.0 1 - 15 14.0 1 -
7 14.0 1 - 2 14.0 67 - 311 7.0 9 - 22 7.0 10 - 8 7.0 24 - 6 14.0 1 - 42 14.0 1 -
9 14.0 69 - 6 4.0 2 - 1 4.0 1 - 44 4.0 1 - 2 4.0 3 - 1 4.0 2 - 1 4.0 22 5.2 1 -
9 5.2 63 7.0 8 - 9 7.0 48 - 19 8.0 1 - 2 8.0 5 - 5 8.0 26 5.0 2 5.2 3 - 1 5.0
26 5.1 5 - 1 5.1 64 - 56 6.1 4 - 2 8.0 2 6.1 16 8.0 2 - 46 8.0 4 4.1 1 - 2 4.1
5 - 8 4.1 1 - 3 4.1 1 - 27 4.1 2 11.0 2 - 3 4.1 4 - 9 4.1 1 11.0 7 - 9 4.1 7 -
32 5.2 32 7.0 32 - 39 7.0 4 - 12 7.0 9 - 54 5.2 3 - 29 5.2 2 - 27 5.2 5 - 8 5.2
18 7.0 7 - 4 7.0 12 - 7 7.0 80 - 73 5.2 55 - 51 8.0 13 - 51 8.0 7 - 6 8.0
40 11.0 8 - 10 11.0 294 - 31 5.2 1 - 42 13.0 1 - 3 13.0 2 - 2 13.0 75 - 3 15.0
40 11.0 8 - 42 11.0 22 - 26 14.0 38 - 28 13.0 20 - 23 12.0 9 - 78 6.0 4 - 30 6.0
6 14.0 9 - 1 7.0 66 5.2 1 14.0 10 - 1 11.0 2 - 25 6.1 7 - 10 6.1 6 - 53 6.1 1 -
14 6.1 3 11.0 1 13.0 8 - 39 7.0 9 - 73 6.1 4 8.0 1 7.0 2 13.0 10 6.1 1 7.0 5 8.0
1 - 20 7.0 11 - 18 7.0 1 - 43 7.0 1 9.0 3 15.0 62 - 7 8.0 1 - 1 8.0 1 - 4 8.0
1 - 15 8.0 1 - 11 8.0 6 - 59 7.0 5 - 10 7.0 6 - 1 8.0 3 7.0 1 - 8 7.0 2 - 2 7.0
2 - 22 7.0 1 - 7 7.0 1 - 2 7.0 1 - 5 7.0 1 - 1 11.0 9 7.0 2 - 2 7.0 2 - 3 7.0
2 - 1 8.0 6 - 1 7.0 5 - 7 7.0 2 - 7 7.0 3 - 5 7.0 139 - 90 9.0 1 13.0 1 9.0 1 -
1 9.0 1 11.0 1 12.0 2 13.0 30 - 72 7.0 8 - 10 7.0 166 - 54 7.0 2 - 18 7.0 20 8.0
34 - 69 7.0 11 - 10 7.0 6 - 13 9.0 19 - 56 6.1 1 12.0 1 14.0 6 - 10 6.1 54 -
26 8.0 1 11.0 2 - 15 8.0 4 - 16 8.0 7 14.0 185 - 60 11.0 100 - 83 7.0 12 - 1 7.0
7 13.0 2 - 1 13.0 2 - 8 13.0 1 - 2 13.0 1 - 30 13.0 1 - 2 13.0 2 - 12 13.0 9 -
10 13.0 70 - 8 12.0 2 - 46 12.0 2 - 11 12.0 27 - 72 10.0 8 - 52 10.0 2 12.0
23 10.0 1 11.0 5 10.0 13 - 16 14.0 57 7.0 7 - 10 15.0 246 - 9 9.0 1 - 45 9.0 1 -
14 9.0 10 - 29 9.0 3 - 32 9.0 2 - 22 9.0 1 - 14 9.0 73 - 7 10.0 1 - 2 10.0 1 -
44 10.0 3 - 1 10.0 1 - 2 10.0 1 - 9 10.0 8 - 10 10.0 6 - 6 11.0 1 - 2 11.0 1 -
37 11.0 1 - 2 11.0 1 - 6 11.0 7 - 10 11.0 310 - 25 11.0 7 - 17 15.0 1 - 41 15.0
3 - 28 15.0 86 - 1 13.0 15 - 50 12.0 13 - 1 12.0 879 5.0 42 7.0 1 8.0 102 -
99 5.0 12 7.0 1 - 4 5.0 1 7.0 11 - 196 8.0 2636 - 99 14.0 13 - 1071 5.2 1 15.0
9 12.0 29 15.0 4010 - 583 8.0 8633 - 569 6.0 7 - 31 7.0 1 - 10 7.0 4 - 2 7.0
79 14.0 1 - 10 14.0 6 - 30 7.0 2 - 6 7.0 10 - 70 7.0 10 - 10 7.0 1 - 7 7.0 1 -
21 7.0 5 - 19 7.0 688 - 91 11.0 101 - 69 6.1 6 12.0 4 - 1 12.0 47 6.1 9 12.0 7 -
17 6.1 64 - 1 9.0 1 10.0 2 12.0 1 13.0 11 - 2 13.0 14 - 6125 9.0 5 11.0 6 12.0
8 - 755 9.0 483 13.0 42 - 9 13.0 8935 - 4 14.0 1 - 7 14.0 1 - 2 14.0 1 - 2 6.0
285 10.0 4 14.0 15 - 1 15.0 29 - 3 12.0 2 - 1 15.0 14 - 4 12.0 8 - 396 10.0
2308 - 107 7.0 5 - 13 7.0 3 - 9 7.0 7 - 10 7.0 2 - 8 7.0 4700 - 46 14.0 2 -
23 14.0 9 - 116 14.0 60 - 246 3.1 10 - 39 3.1 2 - 1 5.1 180 3.1 11 8.0 2 14.0
21 - 70 4.1 122 - 20 15.0 12 - 20 11.0 12 - 87 4.0 9 - 18 5.0 7 11.0 135 -
85 3.1 1 - 71 3.1 1 - 2 3.1 2 - 1 3.1 2 - 2 3.1 2 - 4 3.1 1 - 12 3.1 1 - 1 3.1
1 - 4 3.1 1 4.0 2 3.1 1 - 65 3.1 1 - 4 3.1 2 - 8 3.1 1 - 7 3.1 1 - 28 3.1 1 -
4 3.1 1 - 5 3.1 1 - 1 3.1 3 - 7 3.1 1 - 338 3.1 2 4.1 2 - 290 3.1 2 5.0 2 -
50 3.1 652 8.0 15 - 5 8.0 1 - 15 8.0 1104 - 31 14.0 6 - 6 15.0 213 - 7 9.0 1 -
17 9.0 2 - 7 9.0 1 - 2 9.0 1 - 5 9.0 5 - 62 15.0 33 - 1 15.0 112 - 45 12.0 3 -
14 12.0 2 - 10 12.0 4 - 2 12.0 320 - 31 14.0 17 - 58 12.0 5 - 1 12.0 464 -
42 15.0 742 - 7 14.0 1 - 4 14.0 1 - 2 14.0 1 - 15 14.0 1 - 197 7.0 2 - 16 7.0
41 - 75 9.0 1 12.0 4 - 10 9.0 4 - 2 9.0 785 - 68 11.0 76 - 61 12.0 194 - 4 6.1
1 - 27 6.1 1 - 2 6.1 1 - 1 6.1 2 - 1 6.1 1 - 10 6.1 1 - 4 6.1 1 - 1 6.1 1 -
1 6.1 6 - 1 6.1 4 - 1 6.1 1 - 1 6.1 1 - 1 6.1 1 - 3 6.1 1 - 2 6.1 1 - 1 6.1 2 -
1 6.1 1 - 1 6.1 1 - 1 6.1 1 - 1 6.1 1 - 1 6.1 1 - 2 6.1 1 - 1 6.1 2 - 4 6.1 1 -
7 6.1 1 - 4 6.1 1 - 4 6.1 1 - 1 6.1 1 - 10 6.1 1 - 17 6.1 5 - 3 6.1 1 - 5 6.1
1 - 17 6.1 52 - 2 6.1 270 - 44 5.1 4 - 100 5.1 12 - 15 6.0 2 - 14 6.0 1 7.0 1 -
15 6.0 1 - 15 6.0 22 7.0 10 - 11 5.2 2 7.0 3 13.0 31 5.2 1 11.0 1 6.0 1 5.2
11 6.0 1 5.2 1 6.0 1 5.2 2 6.0 1 5.2 3 6.0 1 5.2 3 6.0 5 5.2 8 6.0 1 5.2 7 6.0
1 5.2 10 6.0 2 6.1 1 12.0 3 13.0 9 6.0 1 5.2 1 6.0 2 5.2 2 6.0 1 5.2 10 6.0
4 5.2 2 6.0 1 5.2 10 6.0 18 9.0 1 13.0 56 - 26 6.0 1 5.2 2 6.0 13 - 34 5.2 9 6.0
1 9.0 4 - 9 5.2 7 - 2 6.0 14 - 6 10.0 154 - 33 6.0 12 7.0 3 8.0 6 6.0 1 7.0
70 6.0 1 7.0 2 8.0 20 6.0 12 7.0 37 6.0 1 7.0 5 6.0 4 7.0 5 8.0 12 7.0 17 6.0
7 7.0 8 8.0 63 6.0 1 7.0 1 6.0 1 7.0 182 6.0 1 7.0 4 6.0 2 7.0 1 8.0 62 6.0
2 7.0 4 6.1 7 7.0 5 8.0 24 6.0 18 7.0 1 9.0 41 7.0 1 9.0 86 7.0 5 6.0 1 6.1
16 6.0 1 6.1 3 6.0 1 6.1 1 6.0 1 6.1 1 6.0 1 6.1 1 6.0 1 6.1 3 6.0 1 6.1 6 6.0
2 6.1 4 6.0 1 6.1 1 6.0 2 6.1 4 6.0 1 6.1 12 6.0 2 7.0 2 8.0 11 6.0 48 7.0
70 6.0 10 7.0 1 8.0 2 9.0 2 10.0 1 12.0 2 13.0 4 - 1 15.0 3 14.0 13 7.0 3 -
4 7.0 3 9.0 2 10.0 1 11.0 1 12.0 2 13.0 3 - 116 6.0 3 15.0 4 - 5 15.0 85 7.0
4 11.0 1 15.0 6 - 12 12.0 4 - 1 14.0 15 - 12 7.0 4 - 56 7.0 8 - 10 7.0 6 -
40 7.0 8 - 30 7.0 2 - 2 13.0 78 - 12 10.0 1 13.0 3 12.0 9 8.0 6 9.0 1 10.0 8 9.0
8 10.0 1 9.0 2 10.0 12 9.0 1 12.0 12 9.0 1 10.0 3 11.0 15 9.0 13 10.0 5 11.0
1 12.0 1 13.0 4 11.0 2 13.0 1 14.0 1 11.0 1 12.0 4 11.0 5 8.0 13 9.0 6 10.0
11 11.0 2 13.0 6 12.0 3 13.0 2 12.0 10 11.0 6 12.0 1 8.0 2 11.0 8 12.0 1 13.0
1 14.0 3 12.0 23 10.0 25 11.0 84 12.0 12 - 14 11.0 2 - 4 12.0 1 13.0 3 15.0
3 12.0 2 14.0 3 - 3 12.0 4 13.0 2 15.0 7 - 6 12.0 19 13.0 4 14.0 3 15.0 7 13.0
4 14.0 3 15.0 1 - 1 15.0 3 13.0 3 14.0 8 - 2 15.0 7 13.0 3 14.0 2 15.0 4 -
8 14.0 1 15.0 7 - 7 14.0 2 15.0 7 - 147 13.0 1 - 55 13.0 37 - 10 13.0 1028 -
2 2.0 42711 3.1 7 13.0 2 14.0 32 - 4149 5.2 4 14.0 1 15.0 6 - 222 6.0 2 -
5762 8.0 14 - 7473 10.0 3103 - 542 3.1 1504 - 2 2.0 4939 13.0 5 - 4192 15.0
56398 - 2 2.0 65534 - 2 2.0 65534 - 2 2.0 65534 - 2 2.0 65534 - 2 2.0 65534 -
2 2.0 65534 - 2 2.0 65534 - 2 2.0 65534 - 2 2.0 65534 - 2 2.0 65534 - 2 2.0 1 -
1 3.1 30 - 96 3.1 128 - 240 4.0 65038 - 131074 2.0"

def versions : List String :=
  ["1.1", "2.0", "2.1", "3.0", "3.1", "3.2", "4.0", "4.1", "5.0", "5.1", "5.2",
    "6.0", "6.1", "6.2", "6.3", "7.0", "8.0", "9.0", "10.0", "11.0", "12.0",
    "12.1", "13.0", "14.0", "15.0"]

/-- Whether a version goes by `name`: `6.1` and `v61` both name version 6.1. -/
def goesBy (name : Text) (version : String) : Bool :=
  version.toList = name || 'v' :: version.toList.filter (· ≠ '.') = name

/-- The code points that the version named `name` and the versions before it
assigned. -/
def named? (name : Text) : Option CodeSet :=
  if versions.any (goesBy name) then
    let earlier := versions.takeWhile fun v => !goesBy name v
    let named := versions.filter (goesBy name)
    some (runs.having ((earlier ++ named).map String.toList))
  else none

end Stubgen.Age
