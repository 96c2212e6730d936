import Stubgen.Unicode.CodeSet

/-!
# General categories

Every code point has one of the two-letter general categories of the Unicode
character database.  This module holds the categories as runs over the code
points, and the names by which a category or a union of categories is cited.
-/

namespace Stubgen.Category

/-- The general category of every code point, as runs of one category. -/
def runs : Runs := Runs.read "
32 Cc 1 Zs 3 Po 1 Sc 3 Po 1 Ps 1 Pe 1 Po 1 Sm 1 Po 1 Pd 2 Po 10 Nd 2 Po 3 Sm
2 Po 26 Lu 1 Ps 1 Po 1 Pe 1 Sk 1 Pc 1 Sk 26 Ll 1 Ps 1 Sm 1 Pe 1 Sm 33 Cc 1 Zs
1 Po 4 Sc 1 So 1 Po 1 Sk 1 So 1 Lo 1 Pi 1 Sm 1 Cf 1 So 1 Sk 1 So 1 Sm 2 No 1 Sk
1 Ll 2 Po 1 Sk 1 No 1 Lo 1 Pf 3 No 1 Po 23 Lu 1 Sm 7 Lu 24 Ll 1 Sm 8 Ll 1 Lu
1 Ll 1 Lu 1 Ll 1 Lu 1 Ll 1 Lu 1 Ll 1 Lu 1 Ll 1 Lu 1 Ll 1 Lu 1 Ll 1 Lu 1 Ll 1 Lu
1 Ll 1 Lu 1 Ll 1 Lu 1 Ll 1 Lu 1 Ll 1 Lu 1 Ll 1 Lu 1 Ll 1 Lu 1 Ll 1 Lu 1 Ll 1 Lu
1 Ll 1 Lu 1 Ll 1 Lu 1 Ll 1 Lu 1 Ll 1 Lu 1 Ll 1 Lu 1 Ll 1 Lu 1 Ll 1 Lu 1 Ll 1 Lu
1 Ll 1 Lu 1 Ll 1 Lu 1 Ll 1 Lu 2 Ll 1 Lu 1 Ll 1 Lu 1 Ll 1 Lu 1 Ll 1 Lu 1 Ll 1 Lu
1 Ll 1 Lu 1 Ll 1 Lu 1 Ll 1 Lu 2 Ll 1 Lu 1 Ll 1 Lu 1 Ll 1 Lu 1 Ll 1 Lu 1 Ll 1 Lu
1 Ll 1 Lu 1 Ll 1 Lu 1 Ll 1 Lu 1 Ll 1 Lu 1 Ll 1 Lu 1 Ll 1 Lu 1 Ll 1 Lu 1 Ll 1 Lu
1 Ll 1 Lu 1 Ll 1 Lu 1 Ll 1 Lu 1 Ll 1 Lu 1 Ll 1 Lu 1 Ll 1 Lu 1 Ll 1 Lu 1 Ll 1 Lu
1 Ll 1 Lu 1 Ll 1 Lu 1 Ll 2 Lu 1 Ll 1 Lu 1 Ll 1 Lu 3 Ll 2 Lu 1 Ll 1 Lu 1 Ll 2 Lu
1 Ll 3 Lu 2 Ll 4 Lu 1 Ll 2 Lu 1 Ll 3 Lu 3 Ll 2 Lu 1 Ll 2 Lu 1 Ll 1 Lu 1 Ll 1 Lu
1 Ll 2 Lu 1 Ll 1 Lu 2 Ll 1 Lu 1 Ll 2 Lu 1 Ll 3 Lu 1 Ll 1 Lu 1 Ll 2 Lu 2 Ll 1 Lo
1 Lu 3 Ll 4 Lo 1 Lu 1 Lt 1 Ll 1 Lu 1 Lt 1 Ll 1 Lu 1 Lt 1 Ll 1 Lu 1 Ll 1 Lu 1 Ll
1 Lu 1 Ll 1 Lu 1 Ll 1 Lu 1 Ll 1 Lu 1 Ll 1 Lu 1 Ll 1 Lu 2 Ll 1 Lu 1 Ll 1 Lu 1 Ll
1 Lu 1 Ll 1 Lu 1 Ll 1 Lu 1 Ll 1 Lu 1 Ll 1 Lu 1 Ll 1 Lu 1 Ll 1 Lu 2 Ll 1 Lu 1 Lt
1 Ll 1 Lu 1 Ll 3 Lu 1 Ll 1 Lu 1 Ll 1 Lu 1 Ll 1 Lu 1 Ll 1 Lu 1 Ll 1 Lu 1 Ll 1 Lu
1 Ll 1 Lu 1 Ll 1 Lu 1 Ll 1 Lu 1 Ll 1 Lu 1 Ll 1 Lu 1 Ll 1 Lu 1 Ll 1 Lu 1 Ll 1 Lu
1 Ll 1 Lu 1 Ll 1 Lu 1 Ll 1 Lu 1 Ll 1 Lu 1 Ll 1 Lu 1 Ll 1 Lu 1 Ll 1 Lu 1 Ll 1 Lu
1 Ll 1 Lu 1 Ll 1 Lu 1 Ll 1 Lu 1 Ll 1 Lu 1 Ll 1 Lu 1 Ll 1 Lu 1 Ll 1 Lu 7 Ll 2 Lu
1 Ll 2 Lu 2 Ll 1 Lu 1 Ll 4 Lu 1 Ll 1 Lu 1 Ll 1 Lu 1 Ll 1 Lu 1 Ll 1 Lu 69 Ll 1 Lo
27 Ll 18 Lm 4 Sk 12 Lm 14 Sk 5 Lm 7 Sk 1 Lm 1 Sk 1 Lm 17 Sk 112 Mn 1 Lu 1 Ll
1 Lu 1 Ll 1 Lm 1 Sk 1 Lu 1 Ll 2 Cn 1 Lm 3 Ll 1 Po 1 Lu 4 Cn 2 Sk 1 Lu 1 Po 3 Lu
1 Cn 1 Lu 1 Cn 2 Lu 1 Ll 17 Lu 1 Cn 9 Lu 35 Ll 1 Lu 2 Ll 3 Lu 3 Ll 1 Lu 1 Ll
1 Lu 1 Ll 1 Lu 1 Ll 1 Lu 1 Ll 1 Lu 1 Ll 1 Lu 1 Ll 1 Lu 1 Ll 1 Lu 1 Ll 1 Lu 1 Ll
1 Lu 1 Ll 1 Lu 1 Ll 1 Lu 5 Ll 1 Lu 1 Ll 1 Sm 1 Lu 1 Ll 2 Lu 2 Ll 51 Lu 48 Ll
1 Lu 1 Ll 1 Lu 1 Ll 1 Lu 1 Ll 1 Lu 1 Ll 1 Lu 1 Ll 1 Lu 1 Ll 1 Lu 1 Ll 1 Lu 1 Ll
1 Lu 1 Ll 1 Lu 1 Ll 1 Lu 1 Ll 1 Lu 1 Ll 1 Lu 1 Ll 1 Lu 1 Ll 1 Lu 1 Ll 1 Lu 1 Ll
1 Lu 1 Ll 1 So 5 Mn 2 Me 1 Lu 1 Ll 1 Lu 1 Ll 1 Lu 1 Ll 1 Lu 1 Ll 1 Lu 1 Ll 1 Lu
1 Ll 1 Lu 1 Ll 1 Lu 1 Ll 1 Lu 1 Ll 1 Lu 1 Ll 1 Lu 1 Ll 1 Lu 1 Ll 1 Lu 1 Ll 1 Lu
1 Ll 1 Lu 1 Ll 1 Lu 1 Ll 1 Lu 1 Ll 1 Lu 1 Ll 1 Lu 1 Ll 1 Lu 1 Ll 1 Lu 1 Ll 1 Lu
1 Ll 1 Lu 1 Ll 1 Lu 1 Ll 1 Lu 1 Ll 1 Lu 1 Ll 1 Lu 1 Ll 2 Lu 1 Ll 1 Lu 1 Ll 1 Lu
1 Ll 1 Lu 1 Ll 1 Lu 1 Ll 1 Lu 1 Ll 1 Lu 2 Ll 1 Lu 1 Ll 1 Lu 1 Ll 1 Lu 1 Ll 1 Lu
1 Ll 1 Lu 1 Ll 1 Lu 1 Ll 1 Lu 1 Ll 1 Lu 1 Ll 1 Lu 1 Ll 1 Lu 1 Ll 1 Lu 1 Ll 1 Lu
1 Ll 1 Lu 1 Ll 1 Lu 1 Ll 1 Lu 1 Ll 1 Lu 1 Ll 1 Lu 1 Ll 1 Lu 1 Ll 1 Lu 1 Ll 1 Lu
1 Ll 1 Lu 1 Ll 1 Lu 1 Ll 1 Lu 1 Ll 1 Lu 1 Ll 1 Lu 1 Ll 1 Lu 1 Ll 1 Lu 1 Ll 1 Lu
1 Ll 1 Lu 1 Ll 1 Lu 1 Ll 1 Lu 1 Ll 1 Lu 1 Ll 1 Lu 1 Ll 1 Lu 1 Ll 1 Lu 1 Ll 1 Lu
1 Ll 1 Lu 1 Ll 1 Lu 1 Ll 1 Lu 1 Ll 1 Lu 1 Ll 1 Lu 1 Ll 1 Lu 1 Ll 1 Lu 1 Ll 1 Lu
1 Ll 1 Lu 1 Ll 1 Lu 1 Ll 1 Lu 1 Ll 1 Lu 1 Ll 1 Cn 38 Lu 2 Cn 1 Lm 6 Po 41 Ll
1 Po 1 Pd 2 Cn 2 So 1 Sc 1 Cn 45 Mn 1 Pd 1 Mn 1 Po 2 Mn 1 Po 2 Mn 1 Po 1 Mn 8 Cn
27 Lo 4 Cn 4 Lo 2 Po 11 Cn 6 Cf 3 Sm 2 Po 1 Sc 2 Po 2 So 11 Mn 1 Po 1 Cf 3 Po
32 Lo 1 Lm 10 Lo 21 Mn 10 Nd 4 Po 2 Lo 1 Mn 99 Lo 1 Po 1 Lo 7 Mn 1 Cf 1 So 6 Mn
2 Lm 2 Mn 1 So 4 Mn 2 Lo 10 Nd 3 Lo 2 So 1 Lo 14 Po 1 Cn 1 Cf 1 Lo 1 Mn 30 Lo
27 Mn 2 Cn 89 Lo 11 Mn 1 Lo 14 Cn 10 Nd 33 Lo 9 Mn 2 Lm 1 So 3 Po 1 Lm 2 Cn 1 Mn
2 Sc 22 Lo 4 Mn 1 Lm 9 Mn 1 Lm 3 Mn 1 Lm 5 Mn 2 Cn 15 Po 1 Cn 25 Lo 3 Mn 2 Cn
1 Po 1 Cn 11 Lo 5 Cn 24 Lo 1 Sk 6 Lo 1 Cn 2 Cf 6 Cn 8 Mn 41 Lo 1 Lm 24 Mn 1 Cf
32 Mn 1 Mc 54 Lo 1 Mn 1 Mc 1 Mn 1 Lo 3 Mc 8 Mn 4 Mc 1 Mn 2 Mc 1 Lo 7 Mn 10 Lo
2 Mn 2 Po 10 Nd 1 Po 1 Lm 15 Lo 1 Mn 2 Mc 1 Cn 8 Lo 2 Cn 2 Lo 2 Cn 22 Lo 1 Cn
7 Lo 1 Cn 1 Lo 3 Cn 4 Lo 2 Cn 1 Mn 1 Lo 3 Mc 4 Mn 2 Cn 2 Mc 2 Cn 2 Mc 1 Mn 1 Lo
8 Cn 1 Mc 4 Cn 2 Lo 1 Cn 3 Lo 2 Mn 2 Cn 10 Nd 2 Lo 2 Sc 6 No 1 So 1 Sc 1 Lo 1 Po
1 Mn 2 Cn 2 Mn 1 Mc 1 Cn 6 Lo 4 Cn 2 Lo 2 Cn 22 Lo 1 Cn 7 Lo 1 Cn 2 Lo 1 Cn 2 Lo
1 Cn 2 Lo 2 Cn 1 Mn 1 Cn 3 Mc 2 Mn 4 Cn 2 Mn 2 Cn 3 Mn 3 Cn 1 Mn 7 Cn 4 Lo 1 Cn
1 Lo 7 Cn 10 Nd 2 Mn 3 Lo 1 Mn 1 Po 10 Cn 2 Mn 1 Mc 1 Cn 9 Lo 1 Cn 3 Lo 1 Cn
22 Lo 1 Cn 7 Lo 1 Cn 2 Lo 1 Cn 5 Lo 2 Cn 1 Mn 1 Lo 3 Mc 5 Mn 1 Cn 2 Mn 1 Mc 1 Cn
2 Mc 1 Mn 2 Cn 1 Lo 15 Cn 2 Lo 2 Mn 2 Cn 10 Nd 1 Po 1 Sc 7 Cn 1 Lo 6 Mn 1 Cn
1 Mn 2 Mc 1 Cn 8 Lo 2 Cn 2 Lo 2 Cn 22 Lo 1 Cn 7 Lo 1 Cn 2 Lo 1 Cn 5 Lo 2 Cn 1 Mn
1 Lo 1 Mc 1 Mn 1 Mc 4 Mn 2 Cn 2 Mc 2 Cn 2 Mc 1 Mn 7 Cn 2 Mn 1 Mc 4 Cn 2 Lo 1 Cn
3 Lo 2 Mn 2 Cn 10 Nd 1 So 1 Lo 6 No 10 Cn 1 Mn 1 Lo 1 Cn 6 Lo 3 Cn 3 Lo 1 Cn
4 Lo 3 Cn 2 Lo 1 Cn 1 Lo 1 Cn 2 Lo 3 Cn 2 Lo 3 Cn 3 Lo 3 Cn 12 Lo 4 Cn 2 Mc 1 Mn
2 Mc 3 Cn 3 Mc 1 Cn 3 Mc 1 Mn 2 Cn 1 Lo 6 Cn 1 Mc 14 Cn 10 Nd 3 No 6 So 1 Sc
1 So 5 Cn 1 Mn 3 Mc 1 Mn 8 Lo 1 Cn 3 Lo 1 Cn 23 Lo 1 Cn 16 Lo 2 Cn 1 Mn 1 Lo
3 Mn 4 Mc 1 Cn 3 Mn 1 Cn 4 Mn 7 Cn 2 Mn 1 Cn 3 Lo 2 Cn 1 Lo 2 Cn 2 Lo 2 Mn 2 Cn
10 Nd 7 Cn 1 Po 7 No 1 So 1 Lo 1 Mn 2 Mc 1 Po 8 Lo 1 Cn 3 Lo 1 Cn 23 Lo 1 Cn
10 Lo 1 Cn 5 Lo 2 Cn 1 Mn 1 Lo 1 Mc 1 Mn 5 Mc 1 Cn 1 Mn 2 Mc 1 Cn 2 Mc 2 Mn 7 Cn
2 Mc 6 Cn 2 Lo 1 Cn 2 Lo 2 Mn 2 Cn 10 Nd 1 Cn 2 Lo 1 Mc 12 Cn 2 Mn 2 Mc 9 Lo
1 Cn 3 Lo 1 Cn 41 Lo 2 Mn 1 Lo 3 Mc 4 Mn 1 Cn 3 Mc 1 Cn 3 Mc 1 Mn 1 Lo 1 So 4 Cn
3 Lo 1 Mc 7 No 3 Lo 2 Mn 2 Cn 10 Nd 9 No 1 So 6 Lo 1 Cn 1 Mn 2 Mc 1 Cn 18 Lo
3 Cn 24 Lo 1 Cn 9 Lo 1 Cn 1 Lo 2 Cn 7 Lo 3 Cn 1 Mn 4 Cn 3 Mc 3 Mn 1 Cn 1 Mn 1 Cn
8 Mc 6 Cn 10 Nd 2 Cn 2 Mc 1 Po 12 Cn 48 Lo 1 Mn 2 Lo 7 Mn 4 Cn 1 Sc 6 Lo 1 Lm
8 Mn 1 Po 10 Nd 2 Po 37 Cn 2 Lo 1 Cn 1 Lo 1 Cn 5 Lo 1 Cn 24 Lo 1 Cn 1 Lo 1 Cn
10 Lo 1 Mn 2 Lo 9 Mn 1 Lo 2 Cn 5 Lo 1 Cn 1 Lm 1 Cn 7 Mn 1 Cn 10 Nd 2 Cn 4 Lo
32 Cn 1 Lo 3 So 15 Po 1 So 1 Po 3 So 2 Mn 6 So 10 Nd 10 No 1 So 1 Mn 1 So 1 Mn
1 So 1 Mn 1 Ps 1 Pe 1 Ps 1 Pe 2 Mc 8 Lo 1 Cn 36 Lo 4 Cn 14 Mn 1 Mc 5 Mn 1 Po
2 Mn 5 Lo 11 Mn 1 Cn 36 Mn 1 Cn 8 So 1 Mn 6 So 1 Cn 2 So 5 Po 4 So 2 Po 37 Cn
43 Lo 2 Mc 4 Mn 1 Mc 6 Mn 1 Mc 2 Mn 2 Mc 2 Mn 1 Lo 10 Nd 6 Po 6 Lo 2 Mc 2 Mn
4 Lo 3 Mn 1 Lo 3 Mc 2 Lo 7 Mc 3 Lo 4 Mn 13 Lo 1 Mn 2 Mc 2 Mn 6 Mc 1 Mn 1 Lo 1 Mc
10 Nd 3 Mc 1 Mn 2 So 38 Lu 1 Cn 1 Lu 5 Cn 1 Lu 2 Cn 43 Ll 1 Po 1 Lm 3 Ll 329 Lo
1 Cn 4 Lo 2 Cn 7 Lo 1 Cn 1 Lo 1 Cn 4 Lo 2 Cn 41 Lo 1 Cn 4 Lo 2 Cn 33 Lo 1 Cn
4 Lo 2 Cn 7 Lo 1 Cn 1 Lo 1 Cn 4 Lo 2 Cn 15 Lo 1 Cn 57 Lo 1 Cn 4 Lo 2 Cn 67 Lo
2 Cn 3 Mn 9 Po 20 No 3 Cn 16 Lo 10 So 6 Cn 86 Lu 2 Cn 6 Ll 2 Cn 1 Pd 620 Lo 1 So
1 Po 17 Lo 1 Zs 26 Lo 1 Ps 1 Pe 3 Cn 75 Lo 3 Po 3 Nl 8 Lo 7 Cn 18 Lo 3 Mn 1 Mc
9 Cn 19 Lo 2 Mn 1 Mc 2 Po 9 Cn 18 Lo 2 Mn 12 Cn 13 Lo 1 Cn 3 Lo 1 Cn 2 Mn 12 Cn
52 Lo 2 Mn 1 Mc 7 Mn 8 Mc 1 Mn 2 Mc 11 Mn 3 Po 1 Lm 3 Po 1 Sc 1 Lo 1 Mn 2 Cn
10 Nd 6 Cn 10 No 6 Cn 6 Po 1 Pd 4 Po 3 Mn 1 Cf 1 Mn 10 Nd 6 Cn 35 Lo 1 Lm 53 Lo
7 Cn 5 Lo 2 Mn 34 Lo 1 Mn 1 Lo 5 Cn 70 Lo 10 Cn 31 Lo 1 Cn 3 Mn 4 Mc 2 Mn 3 Mc
4 Cn 2 Mc 1 Mn 6 Mc 3 Mn 4 Cn 1 So 3 Cn 2 Po 10 Nd 30 Lo 2 Cn 5 Lo 11 Cn 44 Lo
4 Cn 26 Lo 6 Cn 10 Nd 1 No 3 Cn 34 So 23 Lo 2 Mn 2 Mc 1 Mn 2 Cn 2 Po 53 Lo 1 Mc
1 Mn 1 Mc 7 Mn 1 Cn 1 Mn 1 Mc 1 Mn 2 Mc 8 Mn 6 Mc 10 Mn 2 Cn 1 Mn 10 Nd 6 Cn
10 Nd 6 Cn 7 Po 1 Lm 6 Po 2 Cn 14 Mn 1 Me 16 Mn 49 Cn 4 Mn 1 Mc 47 Lo 1 Mn 1 Mc
5 Mn 1 Mc 1 Mn 5 Mc 1 Mn 2 Mc 8 Lo 3 Cn 10 Nd 7 Po 10 So 9 Mn 9 So 2 Po 1 Cn
2 Mn 1 Mc 30 Lo 1 Mc 4 Mn 2 Mc 2 Mn 1 Mc 3 Mn 2 Lo 10 Nd 44 Lo 1 Mn 1 Mc 2 Mn
3 Mc 1 Mn 1 Mc 3 Mn 2 Mc 8 Cn 4 Po 36 Lo 8 Mc 8 Mn 2 Mc 2 Mn 3 Cn 5 Po 10 Nd
3 Cn 3 Lo 10 Nd 30 Lo 6 Lm 2 Po 9 Ll 7 Cn 43 Lu 2 Cn 3 Lu 8 Po 8 Cn 3 Mn 1 Po
13 Mn 1 Mc 7 Mn 4 Lo 1 Mn 6 Lo 1 Mn 2 Lo 1 Mc 2 Mn 1 Lo 5 Cn 44 Ll 63 Lm 13 Ll
1 Lm 34 Ll 37 Lm 64 Mn 1 Lu 1 Ll 1 Lu 1 Ll 1 Lu 1 Ll 1 Lu 1 Ll 1 Lu 1 Ll 1 Lu
1 Ll 1 Lu 1 Ll 1 Lu 1 Ll 1 Lu 1 Ll 1 Lu 1 Ll 1 Lu 1 Ll 1 Lu 1 Ll 1 Lu 1 Ll 1 Lu
1 Ll 1 Lu 1 Ll 1 Lu 1 Ll 1 Lu 1 Ll 1 Lu 1 Ll 1 Lu 1 Ll 1 Lu 1 Ll 1 Lu 1 Ll 1 Lu
1 Ll 1 Lu 1 Ll 1 Lu 1 Ll 1 Lu 1 Ll 1 Lu 1 Ll 1 Lu 1 Ll 1 Lu 1 Ll 1 Lu 1 Ll 1 Lu
1 Ll 1 Lu 1 Ll 1 Lu 1 Ll 1 Lu 1 Ll 1 Lu 1 Ll 1 Lu 1 Ll 1 Lu 1 Ll 1 Lu 1 Ll 1 Lu
1 Ll 1 Lu 1 Ll 1 Lu 1 Ll 1 Lu 1 Ll 1 Lu 1 Ll 1 Lu 1 Ll 1 Lu 1 Ll 1 Lu 1 Ll 1 Lu
1 Ll 1 Lu 1 Ll 1 Lu 1 Ll 1 Lu 1 Ll 1 Lu 1 Ll 1 Lu 1 Ll 1 Lu 1 Ll 1 Lu 1 Ll 1 Lu
1 Ll 1 Lu 1 Ll 1 Lu 1 Ll 1 Lu 1 Ll 1 Lu 1 Ll 1 Lu 1 Ll 1 Lu 1 Ll 1 Lu 1 Ll 1 Lu
1 Ll 1 Lu 1 Ll 1 Lu 1 Ll 1 Lu 1 Ll 1 Lu 1 Ll 1 Lu 1 Ll 1 Lu 1 Ll 1 Lu 1 Ll 1 Lu
1 Ll 1 Lu 1 Ll 1 Lu 1 Ll 1 Lu 1 Ll 1 Lu 1 Ll 1 Lu 9 Ll 1 Lu 1 Ll 1 Lu 1 Ll 1 Lu
1 Ll 1 Lu 1 Ll 1 Lu 1 Ll 1 Lu 1 Ll 1 Lu 1 Ll 1 Lu 1 Ll 1 Lu 1 Ll 1 Lu 1 Ll 1 Lu
1 Ll 1 Lu 1 Ll 1 Lu 1 Ll 1 Lu 1 Ll 1 Lu 1 Ll 1 Lu 1 Ll 1 Lu 1 Ll 1 Lu 1 Ll 1 Lu
1 Ll 1 Lu 1 Ll 1 Lu 1 Ll 1 Lu 1 Ll 1 Lu 1 Ll 1 Lu 1 Ll 1 Lu 1 Ll 1 Lu 1 Ll 1 Lu
1 Ll 1 Lu 1 Ll 1 Lu 1 Ll 1 Lu 1 Ll 1 Lu 1 Ll 1 Lu 1 Ll 1 Lu 1 Ll 1 Lu 1 Ll 1 Lu
1 Ll 1 Lu 1 Ll 1 Lu 1 Ll 1 Lu 1 Ll 1 Lu 1 Ll 1 Lu 1 Ll 1 Lu 1 Ll 1 Lu 1 Ll 1 Lu
1 Ll 1 Lu 1 Ll 1 Lu 1 Ll 1 Lu 1 Ll 1 Lu 1 Ll 1 Lu 1 Ll 1 Lu 9 Ll 8 Lu 6 Ll 2 Cn
6 Lu 2 Cn 8 Ll 8 Lu 8 Ll 8 Lu 6 Ll 2 Cn 6 Lu 2 Cn 8 Ll 1 Cn 1 Lu 1 Cn 1 Lu 1 Cn
1 Lu 1 Cn 1 Lu 8 Ll 8 Lu 14 Ll 2 Cn 8 Ll 8 Lt 8 Ll 8 Lt 8 Ll 8 Lt 5 Ll 1 Cn 2 Ll
4 Lu 1 Lt 1 Sk 1 Ll 3 Sk 3 Ll 1 Cn 2 Ll 4 Lu 1 Lt 3 Sk 4 Ll 2 Cn 2 Ll 4 Lu 1 Cn
3 Sk 8 Ll 5 Lu 3 Sk 2 Cn 3 Ll 1 Cn 2 Ll 4 Lu 1 Lt 2 Sk 1 Cn 11 Zs 5 Cf 6 Pd 2 Po
1 Pi 1 Pf 1 Ps 2 Pi 1 Pf 1 Ps 1 Pi 8 Po 1 Zl 1 Zp 5 Cf 1 Zs 9 Po 1 Pi 1 Pf 4 Po
2 Pc 3 Po 1 Sm 1 Ps 1 Pe 11 Po 1 Sm 1 Po 1 Pc 10 Po 1 Zs 5 Cf 1 Cn 10 Cf 1 No
1 Lm 2 Cn 6 No 3 Sm 1 Ps 1 Pe 1 Lm 10 No 3 Sm 1 Ps 1 Pe 1 Cn 13 Lm 3 Cn 33 Sc
15 Cn 13 Mn 4 Me 1 Mn 3 Me 12 Mn 15 Cn 2 So 1 Lu 4 So 1 Lu 2 So 1 Ll 3 Lu 2 Ll
3 Lu 1 Ll 1 So 1 Lu 2 So 1 Sm 5 Lu 6 So 1 Lu 1 So 1 Lu 1 So 1 Lu 1 So 4 Lu 1 So
1 Ll 4 Lu 1 Ll 4 Lo 1 Ll 2 So 2 Ll 2 Lu 5 Sm 1 Lu 4 Ll 1 So 1 Sm 2 So 1 Ll 1 So
16 No 35 Nl 1 Lu 1 Ll 4 Nl 1 No 2 So 4 Cn 5 Sm 5 So 2 Sm 4 So 1 Sm 2 So 1 Sm
2 So 1 Sm 7 So 1 Sm 31 So 2 Sm 2 So 1 Sm 1 So 1 Sm 31 So 268 Sm 8 So 1 Ps 1 Pe
1 Ps 1 Pe 20 So 2 Sm 7 So 1 Ps 1 Pe 81 So 1 Sm 30 So 25 Sm 40 So 6 Sm 69 So
25 Cn 11 So 21 Cn 60 No 78 So 22 No 183 So 1 Sm 9 So 1 Sm 54 So 8 Sm 111 So 1 Sm
248 So 1 Ps 1 Pe 1 Ps 1 Pe 1 Ps 1 Pe 1 Ps 1 Pe 1 Ps 1 Pe 1 Ps 1 Pe 1 Ps 1 Pe
30 No 44 So 5 Sm 1 Ps 1 Pe 31 Sm 1 Ps 1 Pe 1 Ps 1 Pe 1 Ps 1 Pe 1 Ps 1 Pe 1 Ps
1 Pe 16 Sm 256 So 131 Sm 1 Ps 1 Pe 1 Ps 1 Pe 1 Ps 1 Pe 1 Ps 1 Pe 1 Ps 1 Pe 1 Ps
1 Pe 1 Ps 1 Pe 1 Ps 1 Pe 1 Ps 1 Pe 1 Ps 1 Pe 1 Ps 1 Pe 63 Sm 1 Ps 1 Pe 1 Ps 1 Pe
32 Sm 1 Ps 1 Pe 258 Sm 48 So 21 Sm 2 So 6 Sm 39 So 2 Cn 32 So 1 Cn 105 So 48 Lu
48 Ll 1 Lu 1 Ll 3 Lu 2 Ll 1 Lu 1 Ll 1 Lu 1 Ll 1 Lu 1 Ll 4 Lu 1 Ll 1 Lu 2 Ll 1 Lu
6 Ll 2 Lm 3 Lu 1 Ll 1 Lu 1 Ll 1 Lu 1 Ll 1 Lu 1 Ll 1 Lu 1 Ll 1 Lu 1 Ll 1 Lu 1 Ll
1 Lu 1 Ll 1 Lu 1 Ll 1 Lu 1 Ll 1 Lu 1 Ll 1 Lu 1 Ll 1 Lu 1 Ll 1 Lu 1 Ll 1 Lu 1 Ll
1 Lu 1 Ll 1 Lu 1 Ll 1 Lu 1 Ll 1 Lu 1 Ll 1 Lu 1 Ll 1 Lu 1 Ll 1 Lu 1 Ll 1 Lu 1 Ll
1 Lu 1 Ll 1 Lu 1 Ll 1 Lu 1 Ll 1 Lu 1 Ll 1 Lu 1 Ll 1 Lu 1 Ll 1 Lu 1 Ll 1 Lu 1 Ll
1 Lu 1 Ll 1 Lu 1 Ll 1 Lu 1 Ll 1 Lu 1 Ll 1 Lu 1 Ll 1 Lu 1 Ll 1 Lu 1 Ll 1 Lu 1 Ll
1 Lu 1 Ll 1 Lu 1 Ll 1 Lu 1 Ll 1 Lu 1 Ll 1 Lu 1 Ll 1 Lu 1 Ll 1 Lu 1 Ll 1 Lu 1 Ll
1 Lu 1 Ll 1 Lu 1 Ll 1 Lu 2 Ll 6 So 1 Lu 1 Ll 1 Lu 1 Ll 3 Mn 1 Lu 1 Ll 5 Cn 4 Po
1 No 2 Po 38 Ll 1 Cn 1 Ll 5 Cn 1 Ll 2 Cn 56 Lo 7 Cn 1 Lm 1 Po 14 Cn 1 Mn 23 Lo
9 Cn 7 Lo 1 Cn 7 Lo 1 Cn 7 Lo 1 Cn 7 Lo 1 Cn 7 Lo 1 Cn 7 Lo 1 Cn 7 Lo 1 Cn 7 Lo
1 Cn 32 Mn 2 Po 1 Pi 1 Pf 1 Pi 1 Pf 3 Po 1 Pi 1 Pf 1 Po 1 Pi 1 Pf 9 Po 1 Pd 2 Po
1 Pd 1 Po 1 Pi 1 Pf 2 Po 1 Pi 1 Pf 1 Ps 1 Pe 1 Ps 1 Pe 1 Ps 1 Pe 1 Ps 1 Pe 5 Po
1 Lm 10 Po 2 Pd 4 Po 1 Pd 1 Po 1 Ps 13 Po 2 So 3 Po 1 Ps 1 Pe 1 Ps 1 Pe 1 Ps
1 Pe 1 Ps 1 Pe 1 Pd 34 Cn 26 So 1 Cn 89 So 12 Cn 214 So 26 Cn 12 So 4 Cn 1 Zs
3 Po 1 So 1 Lm 1 Lo 1 Nl 1 Ps 1 Pe 1 Ps 1 Pe 1 Ps 1 Pe 1 Ps 1 Pe 1 Ps 1 Pe 2 So
1 Ps 1 Pe 1 Ps 1 Pe 1 Ps 1 Pe 1 Ps 1 Pe 1 Pd 1 Ps 2 Pe 1 So 9 Nl 4 Mn 2 Mc 1 Pd
5 Lm 2 So 3 Nl 1 Lm 1 Lo 1 Po 2 So 1 Cn 86 Lo 2 Cn 2 Mn 2 Sk 2 Lm 1 Lo 1 Pd
90 Lo 1 Po 3 Lm 1 Lo 5 Cn 43 Lo 1 Cn 94 Lo 1 Cn 2 So 4 No 10 So 32 Lo 36 So
12 Cn 16 Lo 31 So 1 Cn 10 No 30 So 8 No 1 So 15 No 32 So 10 No 39 So 15 No
320 So 6592 Lo 64 So 21013 Lo 1 Lm 1143 Lo 3 Cn 55 So 9 Cn 40 Lo 6 Lm 2 Po
268 Lo 1 Lm 3 Po 16 Lo 10 Nd 2 Lo 20 Cn 1 Lu 1 Ll 1 Lu 1 Ll 1 Lu 1 Ll 1 Lu 1 Ll
1 Lu 1 Ll 1 Lu 1 Ll 1 Lu 1 Ll 1 Lu 1 Ll 1 Lu 1 Ll 1 Lu 1 Ll 1 Lu 1 Ll 1 Lu 1 Ll
1 Lu 1 Ll 1 Lu 1 Ll 1 Lu 1 Ll 1 Lu 1 Ll 1 Lu 1 Ll 1 Lu 1 Ll 1 Lu 1 Ll 1 Lu 1 Ll
1 Lu 1 Ll 1 Lu 1 Ll 1 Lu 1 Ll 1 Lo 1 Mn 3 Me 1 Po 10 Mn 1 Po 1 Lm 1 Lu 1 Ll 1 Lu
1 Ll 1 Lu 1 Ll 1 Lu 1 Ll 1 Lu 1 Ll 1 Lu 1 Ll 1 Lu 1 Ll 1 Lu 1 Ll 1 Lu 1 Ll 1 Lu
1 Ll 1 Lu 1 Ll 1 Lu 1 Ll 1 Lu 1 Ll 1 Lu 1 Ll 2 Lm 2 Mn 70 Lo 10 Nl 2 Mn 6 Po
8 Cn 23 Sk 9 Lm 2 Sk 1 Lu 1 Ll 1 Lu 1 Ll 1 Lu 1 Ll 1 Lu 1 Ll 1 Lu 1 Ll 1 Lu 1 Ll
1 Lu 3 Ll 1 Lu 1 Ll 1 Lu 1 Ll 1 Lu 1 Ll 1 Lu 1 Ll 1 Lu 1 Ll 1 Lu 1 Ll 1 Lu 1 Ll
1 Lu 1 Ll 1 Lu 1 Ll 1 Lu 1 Ll 1 Lu 1 Ll 1 Lu 1 Ll 1 Lu 1 Ll 1 Lu 1 Ll 1 Lu 1 Ll
1 Lu 1 Ll 1 Lu 1 Ll 1 Lu 1 Ll 1 Lu 1 Ll 1 Lu 1 Ll 1 Lu 1 Ll 1 Lu 1 Ll 1 Lu 1 Ll
1 Lu 1 Ll 1 Lu 1 Ll 1 Lu 1 Ll 1 Lu 1 Ll 1 Lu 1 Ll 1 Lu 1 Ll 1 Lu 1 Ll 1 Lu 1 Ll
1 Lm 8 Ll 1 Lu 1 Ll 1 Lu 1 Ll 2 Lu 1 Ll 1 Lu 1 Ll 1 Lu 1 Ll 1 Lu 1 Ll 1 Lu 1 Ll
1 Lm 2 Sk 1 Lu 1 Ll 1 Lu 1 Ll 1 Lo 1 Lu 1 Ll 1 Lu 3 Ll 1 Lu 1 Ll 1 Lu 1 Ll 1 Lu
1 Ll 1 Lu 1 Ll 1 Lu 1 Ll 1 Lu 1 Ll 1 Lu 1 Ll 1 Lu 1 Ll 1 Lu 1 Ll 1 Lu 1 Ll 5 Lu
1 Ll 5 Lu 1 Ll 1 Lu 1 Ll 1 Lu 1 Ll 1 Lu 1 Ll 1 Lu 1 Ll 1 Lu 1 Ll 1 Lu 1 Ll 1 Lu
1 Ll 4 Lu 1 Ll 1 Lu 1 Ll 5 Cn 1 Lu 1 Ll 1 Cn 1 Ll 1 Cn 1 Ll 1 Lu 1 Ll 1 Lu 1 Ll
24 Cn 3 Lm 1 Lu 1 Ll 1 Lo 2 Lm 1 Ll 7 Lo 1 Mn 3 Lo 1 Mn 4 Lo 1 Mn 23 Lo 2 Mc
2 Mn 1 Mc 4 So 1 Mn 3 Cn 6 No 2 So 1 Sc 1 So 6 Cn 52 Lo 4 Po 8 Cn 2 Mc 50 Lo
16 Mc 2 Mn 8 Cn 2 Po 10 Nd 6 Cn 18 Mn 6 Lo 3 Po 1 Lo 1 Po 2 Lo 1 Mn 10 Nd 28 Lo
8 Mn 2 Po 23 Lo 11 Mn 2 Mc 11 Cn 1 Po 29 Lo 3 Cn 3 Mn 1 Mc 47 Lo 1 Mn 2 Mc 4 Mn
2 Mc 2 Mn 3 Mc 13 Po 1 Cn 1 Lm 10 Nd 4 Cn 2 Po 5 Lo 1 Mn 1 Lm 9 Lo 10 Nd 5 Lo
1 Cn 41 Lo 6 Mn 2 Mc 2 Mn 2 Mc 2 Mn 9 Cn 3 Lo 1 Mn 8 Lo 1 Mn 1 Mc 2 Cn 10 Nd
2 Cn 4 Po 16 Lo 1 Lm 6 Lo 3 So 1 Lo 1 Mc 1 Mn 1 Mc 50 Lo 1 Mn 1 Lo 3 Mn 2 Lo
2 Mn 5 Lo 2 Mn 1 Lo 1 Mn 1 Lo 24 Cn 2 Lo 1 Lm 2 Po 11 Lo 1 Mc 2 Mn 2 Mc 2 Po
1 Lo 2 Lm 1 Mc 1 Mn 10 Cn 6 Lo 2 Cn 6 Lo 2 Cn 6 Lo 9 Cn 7 Lo 1 Cn 7 Lo 1 Cn
43 Ll 1 Sk 4 Lm 9 Ll 1 Lm 2 Sk 4 Cn 80 Ll 35 Lo 2 Mc 1 Mn 2 Mc 1 Mn 2 Mc 1 Po
1 Mc 1 Mn 2 Cn 10 Nd 6 Cn 11172 Lo 12 Cn 23 Lo 4 Cn 49 Lo 4 Cn 2048 Cs 6400 Co
366 Lo 2 Cn 106 Lo 38 Cn 7 Ll 12 Cn 5 Ll 5 Cn 1 Lo 1 Mn 10 Lo 1 Sm 13 Lo 1 Cn
5 Lo 1 Cn 1 Lo 1 Cn 2 Lo 1 Cn 2 Lo 1 Cn 108 Lo 17 Sk 16 Cn 363 Lo 1 Pe 1 Ps
16 So 64 Lo 2 Cn 54 Lo 7 Cn 1 So 32 Cn 12 Lo 1 Sc 3 So 16 Mn 7 Po 1 Ps 1 Pe 1 Po
6 Cn 16 Mn 1 Po 2 Pd 2 Pc 1 Ps 1 Pe 1 Ps 1 Pe 1 Ps 1 Pe 1 Ps 1 Pe 1 Ps 1 Pe 1 Ps
1 Pe 1 Ps 1 Pe 1 Ps 1 Pe 2 Po 1 Ps 1 Pe 4 Po 3 Pc 3 Po 1 Cn 4 Po 1 Pd 1 Ps 1 Pe
1 Ps 1 Pe 1 Ps 1 Pe 3 Po 1 Sm 1 Pd 3 Sm 1 Cn 1 Po 1 Sc 2 Po 4 Cn 5 Lo 1 Cn
135 Lo 2 Cn 1 Cf 1 Cn 3 Po 1 Sc 3 Po 1 Ps 1 Pe 1 Po 1 Sm 1 Po 1 Pd 2 Po 10 Nd
2 Po 3 Sm 2 Po 26 Lu 1 Ps 1 Po 1 Pe 1 Sk 1 Pc 1 Sk 26 Ll 1 Ps 1 Sm 1 Pe 1 Sm
1 Ps 1 Pe 1 Po 1 Ps 1 Pe 2 Po 10 Lo 1 Lm 45 Lo 2 Lm 31 Lo 3 Cn 6 Lo 2 Cn 6 Lo
2 Cn 6 Lo 2 Cn 3 Lo 3 Cn 2 Sc 1 Sm 1 Sk 1 So 2 Sc 1 Cn 1 So 4 Sm 2 So 10 Cn 3 Cf
2 So 2 Cn 12 Lo 1 Cn 26 Lo 1 Cn 19 Lo 1 Cn 2 Lo 1 Cn 15 Lo 2 Cn 14 Lo 34 Cn
123 Lo 5 Cn 3 Po 4 Cn 45 No 3 Cn 9 So 53 Nl 4 No 17 So 2 No 3 So 1 Cn 13 So 3 Cn
1 So 47 Cn 45 So 1 Mn 130 Cn 29 Lo 3 Cn 49 Lo 15 Cn 1 Mn 27 No 4 Cn 32 Lo 4 No
9 Cn 20 Lo 1 Nl 8 Lo 1 Nl 5 Cn 38 Lo 5 Mn 5 Cn 30 Lo 1 Cn 1 Po 36 Lo 4 Cn 8 Lo
1 Po 5 Nl 42 Cn 40 Lu 40 Ll 78 Lo 2 Cn 10 Nd 6 Cn 36 Lu 4 Cn 36 Ll 4 Cn 40 Lo
8 Cn 52 Lo 11 Cn 1 Po 11 Lu 1 Cn 15 Lu 1 Cn 7 Lu 1 Cn 2 Lu 1 Cn 11 Ll 1 Cn 15 Ll
1 Cn 7 Ll 1 Cn 2 Ll 67 Cn 311 Lo 9 Cn 22 Lo 10 Cn 8 Lo 24 Cn 6 Lm 1 Cn 42 Lm
1 Cn 9 Lm 69 Cn 6 Lo 2 Cn 1 Lo 1 Cn 44 Lo 1 Cn 2 Lo 3 Cn 1 Lo 2 Cn 23 Lo 1 Cn
1 Po 8 No 23 Lo 2 So 7 No 31 Lo 8 Cn 9 No 48 Cn 19 Lo 1 Cn 2 Lo 5 Cn 5 No 22 Lo
6 No 3 Cn 1 Po 26 Lo 5 Cn 1 Po 64 Cn 56 Lo 4 Cn 2 No 2 Lo 16 No 2 Cn 46 No 1 Lo
3 Mn 1 Cn 2 Mn 5 Cn 4 Mn 4 Lo 1 Cn 3 Lo 1 Cn 29 Lo 2 Cn 3 Mn 4 Cn 1 Mn 9 No 7 Cn
9 Po 7 Cn 29 Lo 2 No 1 Po 29 Lo 3 No 32 Cn 8 Lo 1 So 28 Lo 2 Mn 4 Cn 5 No 7 Po
9 Cn 54 Lo 3 Cn 7 Po 22 Lo 2 Cn 8 No 19 Lo 5 Cn 8 No 18 Lo 7 Cn 4 Po 12 Cn 7 No
80 Cn 73 Lo 55 Cn 51 Lu 13 Cn 51 Ll 7 Cn 6 No 36 Lo 4 Mn 8 Cn 10 Nd 294 Cn 31 No
1 Cn 42 Lo 1 Cn 2 Mn 1 Pd 2 Cn 2 Lo 75 Cn 3 Mn 29 Lo 10 No 1 Lo 8 Cn 22 Lo 11 Mn
4 No 5 Po 22 Cn 18 Lo 4 Mn 4 Po 38 Cn 21 Lo 7 No 20 Cn 23 Lo 9 Cn 1 Mc 1 Mn 1 Mc
53 Lo 15 Mn 7 Po 4 Cn 20 No 10 Nd 1 Mn 2 Lo 2 Mn 1 Lo 9 Cn 3 Mn 1 Mc 45 Lo 3 Mc
4 Mn 2 Mc 2 Mn 2 Po 1 Cf 4 Po 1 Mn 10 Cn 1 Cf 2 Cn 25 Lo 7 Cn 10 Nd 6 Cn 3 Mn
36 Lo 5 Mn 1 Mc 8 Mn 1 Cn 10 Nd 4 Po 1 Lo 2 Mc 1 Lo 8 Cn 35 Lo 1 Mn 2 Po 1 Lo
9 Cn 2 Mn 1 Mc 48 Lo 3 Mc 9 Mn 2 Mc 4 Lo 4 Po 4 Mn 1 Po 1 Mc 1 Mn 10 Nd 1 Lo
1 Po 1 Lo 3 Po 1 Cn 20 No 11 Cn 18 Lo 1 Cn 25 Lo 3 Mc 3 Mn 2 Mc 1 Mn 1 Mc 2 Mn
6 Po 1 Mn 2 Lo 1 Mn 62 Cn 7 Lo 1 Cn 1 Lo 1 Cn 4 Lo 1 Cn 15 Lo 1 Cn 10 Lo 1 Po
6 Cn 47 Lo 1 Mn 3 Mc 8 Mn 5 Cn 10 Nd 6 Cn 2 Mn 2 Mc 1 Cn 8 Lo 2 Cn 2 Lo 2 Cn
22 Lo 1 Cn 7 Lo 1 Cn 2 Lo 1 Cn 5 Lo 1 Cn 2 Mn 1 Lo 2 Mc 1 Mn 4 Mc 2 Cn 2 Mc 2 Cn
3 Mc 2 Cn 1 Lo 6 Cn 1 Mc 5 Cn 5 Lo 2 Mc 2 Cn 7 Mn 3 Cn 5 Mn 139 Cn 53 Lo 3 Mc
8 Mn 2 Mc 3 Mn 1 Mc 1 Mn 4 Lo 5 Po 10 Nd 2 Po 1 Cn 1 Po 1 Mn 3 Lo 30 Cn 48 Lo
3 Mc 6 Mn 1 Mc 1 Mn 4 Mc 2 Mn 1 Mc 2 Mn 2 Lo 1 Po 1 Lo 8 Cn 10 Nd 166 Cn 47 Lo
3 Mc 4 Mn 2 Cn 4 Mc 2 Mn 1 Mc 2 Mn 23 Po 4 Lo 2 Mn 34 Cn 48 Lo 3 Mc 8 Mn 2 Mc
1 Mn 1 Mc 2 Mn 3 Po 1 Lo 11 Cn 10 Nd 6 Cn 13 Po 19 Cn 43 Lo 1 Mn 1 Mc 1 Mn 2 Mc
6 Mn 1 Mc 1 Mn 1 Lo 1 Po 6 Cn 10 Nd 54 Cn 27 Lo 2 Cn 3 Mn 2 Mc 4 Mn 1 Mc 5 Mn
4 Cn 10 Nd 2 No 3 Po 1 So 7 Lo 185 Cn 44 Lo 3 Mc 9 Mn 1 Mc 2 Mn 1 Po 100 Cn
32 Lu 32 Ll 10 Nd 9 No 12 Cn 8 Lo 2 Cn 1 Lo 2 Cn 8 Lo 1 Cn 2 Lo 1 Cn 24 Lo 6 Mc
1 Cn 2 Mc 2 Cn 2 Mn 1 Mc 1 Mn 1 Lo 1 Mc 1 Lo 1 Mc 1 Mn 3 Po 9 Cn 10 Nd 70 Cn
8 Lo 2 Cn 39 Lo 3 Mc 4 Mn 2 Cn 2 Mn 4 Mc 1 Mn 1 Lo 1 Po 1 Lo 1 Mc 27 Cn 1 Lo
10 Mn 40 Lo 6 Mn 1 Mc 1 Lo 4 Mn 8 Po 1 Mn 8 Cn 1 Lo 6 Mn 2 Mc 3 Mn 46 Lo 13 Mn
1 Mc 2 Mn 3 Po 1 Lo 5 Po 13 Cn 73 Lo 7 Cn 10 Po 246 Cn 9 Lo 1 Cn 37 Lo 1 Mc 7 Mn
1 Cn 6 Mn 1 Mc 1 Mn 1 Lo 5 Po 10 Cn 10 Nd 19 No 3 Cn 2 Po 30 Lo 2 Cn 22 Mn 1 Cn
1 Mc 7 Mn 1 Mc 2 Mn 1 Mc 2 Mn 73 Cn 7 Lo 1 Cn 2 Lo 1 Cn 38 Lo 6 Mn 3 Cn 1 Mn
1 Cn 2 Mn 1 Cn 7 Mn 1 Lo 1 Mn 8 Cn 10 Nd 6 Cn 6 Lo 1 Cn 2 Lo 1 Cn 32 Lo 5 Mc
1 Cn 2 Mn 1 Cn 2 Mc 1 Mn 1 Mc 1 Mn 1 Lo 7 Cn 10 Nd 310 Cn 19 Lo 2 Mn 2 Mc 2 Po
7 Cn 2 Mn 1 Lo 1 Mc 13 Lo 1 Cn 34 Lo 2 Mc 5 Mn 3 Cn 2 Mc 1 Mn 1 Mc 1 Mn 13 Po
10 Nd 86 Cn 1 Lo 15 Cn 21 No 8 So 4 Sc 17 So 13 Cn 1 Po 922 Lo 102 Cn 111 Nl
1 Cn 5 Po 11 Cn 196 Lo 2636 Cn 97 Lo 2 Po 13 Cn 1072 Lo 16 Cf 1 Mn 6 Lo 15 Mn
4010 Cn 583 Lo 8633 Cn 569 Lo 7 Cn 31 Lo 1 Cn 10 Nd 4 Cn 2 Po 79 Lo 1 Cn 10 Nd
6 Cn 30 Lo 2 Cn 5 Mn 1 Po 10 Cn 48 Lo 7 Mn 5 Po 4 So 4 Lm 1 Po 1 So 10 Cn 10 Nd
1 Cn 7 No 1 Cn 21 Lo 5 Cn 19 Lo 688 Cn 32 Lu 32 Ll 23 No 4 Po 101 Cn 75 Lo 4 Cn
1 Mn 1 Lo 55 Mc 7 Cn 4 Mn 13 Lm 64 Cn 2 Lm 1 Po 1 Lm 1 Mn 11 Cn 2 Mc 14 Cn
6136 Lo 8 Cn 1238 Lo 42 Cn 9 Lo 8935 Cn 4 Lm 1 Cn 7 Lm 1 Cn 2 Lm 1 Cn 291 Lo
15 Cn 1 Lo 29 Cn 3 Lo 2 Cn 1 Lo 14 Cn 4 Lo 8 Cn 396 Lo 2308 Cn 107 Lo 5 Cn 13 Lo
3 Cn 9 Lo 7 Cn 10 Lo 2 Cn 1 So 2 Mn 1 Po 4 Cf 4700 Cn 46 Mn 2 Cn 23 Mn 9 Cn
116 So 60 Cn 246 So 10 Cn 39 So 2 Cn 60 So 2 Mc 3 Mn 3 So 6 Mc 8 Cf 8 Mn 2 So
7 Mn 30 So 4 Mn 61 So 21 Cn 66 So 3 Mn 1 So 122 Cn 20 No 12 Cn 20 No 12 Cn 87 So
9 Cn 25 No 135 Cn 26 Lu 26 Ll 26 Lu 7 Ll 1 Cn 18 Ll 26 Lu 26 Ll 1 Lu 1 Cn 2 Lu
2 Cn 1 Lu 2 Cn 2 Lu 2 Cn 4 Lu 1 Cn 8 Lu 4 Ll 1 Cn 1 Ll 1 Cn 7 Ll 1 Cn 11 Ll
26 Lu 26 Ll 2 Lu 1 Cn 4 Lu 2 Cn 8 Lu 1 Cn 7 Lu 1 Cn 26 Ll 2 Lu 1 Cn 4 Lu 1 Cn
5 Lu 1 Cn 1 Lu 3 Cn 7 Lu 1 Cn 26 Ll 26 Lu 26 Ll 26 Lu 26 Ll 26 Lu 26 Ll 26 Lu
26 Ll 26 Lu 26 Ll 26 Lu 28 Ll 2 Cn 25 Lu 1 Sm 25 Ll 1 Sm 6 Ll 25 Lu 1 Sm 25 Ll
1 Sm 6 Ll 25 Lu 1 Sm 25 Ll 1 Sm 6 Ll 25 Lu 1 Sm 25 Ll 1 Sm 6 Ll 25 Lu 1 Sm 25 Ll
1 Sm 6 Ll 1 Lu 1 Ll 2 Cn 50 Nd 512 So 55 Mn 4 So 50 Mn 8 So 1 Mn 14 So 1 Mn 2 So
5 Po 15 Cn 5 Mn 1 Cn 15 Mn 1104 Cn 10 Ll 1 Lo 20 Ll 6 Cn 6 Ll 213 Cn 7 Mn 1 Cn
17 Mn 2 Cn 7 Mn 1 Cn 2 Mn 1 Cn 5 Mn 5 Cn 62 Lm 33 Cn 1 Mn 112 Cn 45 Lo 3 Cn 7 Mn
7 Lm 2 Cn 10 Nd 4 Cn 1 Lo 1 So 320 Cn 30 Lo 1 Mn 17 Cn 44 Lo 4 Mn 10 Nd 5 Cn
1 Sc 464 Cn 27 Lo 1 Lm 4 Mn 10 Nd 742 Cn 7 Lo 1 Cn 4 Lo 1 Cn 2 Lo 1 Cn 15 Lo
1 Cn 197 Lo 2 Cn 9 No 7 Mn 41 Cn 34 Lu 34 Ll 7 Mn 1 Lm 4 Cn 10 Nd 4 Cn 2 Po
785 Cn 59 No 1 So 3 No 1 Sc 4 No 76 Cn 45 No 1 So 15 No 194 Cn 4 Lo 1 Cn 27 Lo
1 Cn 2 Lo 1 Cn 1 Lo 2 Cn 1 Lo 1 Cn 10 Lo 1 Cn 4 Lo 1 Cn 1 Lo 1 Cn 1 Lo 6 Cn 1 Lo
4 Cn 1 Lo 1 Cn 1 Lo 1 Cn 1 Lo 1 Cn 3 Lo 1 Cn 2 Lo 1 Cn 1 Lo 2 Cn 1 Lo 1 Cn 1 Lo
1 Cn 1 Lo 1 Cn 1 Lo 1 Cn 1 Lo 1 Cn 2 Lo 1 Cn 1 Lo 2 Cn 4 Lo 1 Cn 7 Lo 1 Cn 4 Lo
1 Cn 4 Lo 1 Cn 1 Lo 1 Cn 10 Lo 1 Cn 17 Lo 5 Cn 3 Lo 1 Cn 5 Lo 1 Cn 17 Lo 52 Cn
2 Sm 270 Cn 44 So 4 Cn 100 So 12 Cn 15 So 2 Cn 15 So 1 Cn 15 So 1 Cn 37 So 10 Cn
13 No 161 So 56 Cn 29 So 13 Cn 44 So 4 Cn 9 So 7 Cn 2 So 14 Cn 6 So 154 Cn
251 So 5 Sk 728 So 4 Cn 17 So 3 Cn 13 So 3 Cn 119 So 4 Cn 95 So 6 Cn 12 So 4 Cn
1 So 15 Cn 12 So 4 Cn 56 So 8 Cn 10 So 6 Cn 40 So 8 Cn 30 So 2 Cn 2 So 78 Cn
340 So 12 Cn 14 So 2 Cn 13 So 3 Cn 9 So 7 Cn 46 So 1 Cn 7 So 8 Cn 14 So 4 Cn
9 So 7 Cn 9 So 7 Cn 147 So 1 Cn 55 So 37 Cn 10 Nd 1030 Cn 42720 Lo 32 Cn 4154 Lo
6 Cn 222 Lo 2 Cn 5762 Lo 14 Cn 7473 Lo 3103 Cn 542 Lo 1506 Cn 4939 Lo 5 Cn
4192 Lo 711761 Cn 1 Cf 30 Cn 96 Cf 128 Cn 240 Mn 65040 Cn 65534 Co 2 Cn 65534 Co
2 Cn"

/-- The code points of some of the two-letter categories. -/
def having (codes : List String) : CodeSet :=
  runs.having (codes.map String.toList)

/-- The names of each class of categories, in lower case and without separators,
and the two-letter categories that it unites. -/
def classes : List (List String × List String) := [
  (["c", "other"], ["Cc", "Cf", "Cn", "Co"]),
  (["cc", "cntrl", "control"], ["Cc"]),
  (["cf", "format"], ["Cf"]),
  (["cn", "unassigned"], ["Cn"]),
  (["co", "privateuse"], ["Co"]),
  (["l", "letter"], ["Ll", "Lm", "Lo", "Lt", "Lu"]),
  (["lc", "casedletter"], ["Lu", "Ll", "Lt"]),
  (["ll", "lowercaseletter"], ["Ll"]),
  (["lm", "modifierletter"], ["Lm"]),
  (["lo", "otherletter"], ["Lo"]),
  (["lt", "titlecaseletter"], ["Lt"]),
  (["lu", "uppercaseletter"], ["Lu"]),
  (["m", "mark", "combiningmark"], ["Mc", "Me", "Mn"]),
  (["mc", "spacingmark"], ["Mc"]),
  (["me", "enclosingmark"], ["Me"]),
  (["mn", "nonspacingmark"], ["Mn"]),
  (["n", "number"], ["Nd", "Nl", "No"]),
  (["nd", "digit", "decimalnumber"], ["Nd"]),
  (["nl", "letternumber"], ["Nl"]),
  (["no", "othernumber"], ["No"]),
  (["p", "punct", "punctuation"], ["Pc", "Pd", "Pe", "Pf", "Pi", "Po", "Ps"]),
  (["pc", "connectorpunctuation"], ["Pc"]),
  (["pd", "dashpunctuation"], ["Pd"]),
  (["pe", "closepunctuation"], ["Pe"]),
  (["pf", "finalpunctuation"], ["Pf"]),
  (["pi", "initialpunctuation"], ["Pi"]),
  (["po", "otherpunctuation"], ["Po"]),
  (["ps", "openpunctuation"], ["Ps"]),
  (["s", "symbol"], ["Sc", "Sk", "Sm", "So"]),
  (["sc", "currencysymbol"], ["Sc"]),
  (["sk", "modifiersymbol"], ["Sk"]),
  (["sm", "mathsymbol"], ["Sm"]),
  (["so", "othersymbol"], ["So"]),
  (["z", "separator"], ["Zl", "Zp", "Zs"]),
  (["zl", "lineseparator"], ["Zl"]),
  (["zp", "paragraphseparator"], ["Zp"]),
  (["zs", "spaceseparator"], ["Zs"])]

/-- The class of categories that goes by `name`. -/
def named? (name : Text) : Option CodeSet :=
  if name = "any".toList then some CodeSet.all
  else if name = "assigned".toList then some (having ["Cn"]).compl
  else if name = "ascii".toList then some (CodeSet.range 0 0x7F)
  else
    (classes.find? fun c => c.1.any (·.toList = name)).map fun c => having c.2

end Stubgen.Category
