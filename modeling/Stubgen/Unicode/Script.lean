import Stubgen.Unicode.CodeSet

/-!
# Scripts

The script of every code point, and the sets of the code points that are used
with a script where that set is another one than the code points of the script.
-/

namespace Stubgen.Script

/-- The script of every code point, as runs of one script; `-` stands for no
script. -/
def runs : Runs := Runs.read "
65 Zyyy 26 Latn 6 Zyyy 26 Latn 47 Zyyy 1 Latn 15 Zyyy 1 Latn 5 Zyyy 23 Latn
1 Zyyy 31 Latn 1 Zyyy 449 Latn 39 Zyyy 5 Latn 5 Zyyy 2 Bopo 20 Zyyy 112 Zinh
4 Grek 1 Zyyy 3 Grek 2 - 4 Grek 1 Zyyy 1 Grek 4 - 1 Grek 1 Zyyy 1 Grek 1 Zyyy
3 Grek 1 - 1 Grek 1 - 20 Grek 1 - 63 Grek 14 Copt 16 Grek 133 Cyrl 2 Zinh
169 Cyrl 1 - 38 Armn 2 - 50 Armn 2 - 3 Armn 1 - 55 Hebr 8 - 27 Hebr 4 - 6 Hebr
11 - 5 Arab 1 Zyyy 6 Arab 1 Zyyy 14 Arab 1 Zyyy 3 Arab 1 Zyyy 32 Arab 1 Zyyy
10 Arab 11 Zinh 26 Arab 1 Zinh 108 Arab 1 Zyyy 34 Arab 14 Syrc 1 - 60 Syrc 2 -
3 Syrc 48 Arab 50 Thaa 14 - 59 Nkoo 2 - 3 Nkoo 46 Samr 2 - 15 Samr 1 - 28 Mand
2 - 1 Mand 1 - 11 Syrc 5 - 31 Arab 1 - 2 Arab 6 - 74 Arab 1 Zyyy 29 Arab 81 Deva
4 Zinh 15 Deva 2 Zyyy 26 Deva 4 Beng 1 - 8 Beng 2 - 2 Beng 2 - 22 Beng 1 -
7 Beng 1 - 1 Beng 3 - 4 Beng 2 - 9 Beng 2 - 2 Beng 2 - 4 Beng 8 - 1 Beng 4 -
2 Beng 1 - 5 Beng 2 - 25 Beng 2 - 3 Guru 1 - 6 Guru 4 - 2 Guru 2 - 22 Guru 1 -
7 Guru 1 - 2 Guru 1 - 2 Guru 1 - 2 Guru 2 - 1 Guru 1 - 5 Guru 4 - 2 Guru 2 -
3 Guru 3 - 1 Guru 7 - 4 Guru 1 - 1 Guru 7 - 17 Guru 10 - 3 Gujr 1 - 9 Gujr 1 -
3 Gujr 1 - 22 Gujr 1 - 7 Gujr 1 - 2 Gujr 1 - 5 Gujr 2 - 10 Gujr 1 - 3 Gujr 1 -
3 Gujr 2 - 1 Gujr 15 - 4 Gujr 2 - 12 Gujr 7 - 7 Gujr 1 - 3 Orya 1 - 8 Orya 2 -
2 Orya 2 - 22 Orya 1 - 7 Orya 1 - 2 Orya 1 - 5 Orya 2 - 9 Orya 2 - 2 Orya 2 -
3 Orya 7 - 3 Orya 4 - 2 Orya 1 - 5 Orya 2 - 18 Orya 10 - 2 Taml 1 - 6 Taml 3 -
3 Taml 1 - 4 Taml 3 - 2 Taml 1 - 1 Taml 1 - 2 Taml 3 - 2 Taml 3 - 3 Taml 3 -
12 Taml 4 - 5 Taml 3 - 3 Taml 1 - 4 Taml 2 - 1 Taml 6 - 1 Taml 14 - 21 Taml 5 -
13 Telu 1 - 3 Telu 1 - 23 Telu 1 - 16 Telu 2 - 9 Telu 1 - 3 Telu 1 - 4 Telu 7 -
2 Telu 1 - 3 Telu 2 - 1 Telu 2 - 4 Telu 2 - 10 Telu 7 - 9 Telu 13 Knda 1 -
3 Knda 1 - 23 Knda 1 - 10 Knda 1 - 5 Knda 2 - 9 Knda 1 - 3 Knda 1 - 4 Knda 7 -
2 Knda 6 - 2 Knda 1 - 4 Knda 2 - 10 Knda 1 - 3 Knda 12 - 13 Mlym 1 - 3 Mlym 1 -
51 Mlym 1 - 3 Mlym 1 - 6 Mlym 4 - 16 Mlym 2 - 26 Mlym 1 - 3 Sinh 1 - 18 Sinh 3 -
24 Sinh 1 - 9 Sinh 1 - 1 Sinh 2 - 7 Sinh 3 - 1 Sinh 4 - 6 Sinh 1 - 1 Sinh 1 -
8 Sinh 6 - 10 Sinh 2 - 3 Sinh 12 - 58 Thai 4 - 1 Zyyy 28 Thai 37 - 2 Laoo 1 -
1 Laoo 1 - 5 Laoo 1 - 24 Laoo 1 - 1 Laoo 1 - 23 Laoo 2 - 5 Laoo 1 - 1 Laoo 1 -
7 Laoo 1 - 10 Laoo 2 - 4 Laoo 32 - 72 Tibt 1 - 36 Tibt 4 - 39 Tibt 1 - 36 Tibt
1 - 15 Tibt 1 - 7 Tibt 4 Zyyy 2 Tibt 37 - 160 Mymr 38 Geor 1 - 1 Geor 5 - 1 Geor
2 - 43 Geor 1 Zyyy 4 Geor 256 Hang 73 Ethi 1 - 4 Ethi 2 - 7 Ethi 1 - 1 Ethi 1 -
4 Ethi 2 - 41 Ethi 1 - 4 Ethi 2 - 33 Ethi 1 - 4 Ethi 2 - 7 Ethi 1 - 1 Ethi 1 -
4 Ethi 2 - 15 Ethi 1 - 57 Ethi 1 - 4 Ethi 2 - 67 Ethi 2 - 32 Ethi 3 - 26 Ethi
6 - 86 Cher 2 - 6 Cher 2 - 640 Cans 29 Ogam 3 - 75 Runr 3 Zyyy 11 Runr 7 -
22 Tglg 9 - 1 Tglg 21 Hano 2 Zyyy 9 - 20 Buhd 12 - 13 Tagb 1 - 3 Tagb 1 - 2 Tagb
12 - 94 Khmr 2 - 10 Khmr 6 - 10 Khmr 6 - 2 Mong 2 Zyyy 1 Mong 1 Zyyy 20 Mong 6 -
89 Mong 7 - 43 Mong 5 - 70 Cans 10 - 31 Limb 1 - 12 Limb 4 - 12 Limb 4 - 1 Limb
3 - 12 Limb 30 Tale 2 - 5 Tale 11 - 44 Talu 4 - 26 Talu 6 - 11 Talu 3 - 2 Talu
32 Khmr 28 Bugi 2 - 2 Bugi 63 Lana 1 - 29 Lana 2 - 11 Lana 6 - 10 Lana 6 -
14 Lana 2 - 31 Zinh 49 - 77 Bali 3 - 47 Bali 1 - 64 Sund 52 Batk 8 - 4 Batk
56 Lepc 3 - 15 Lepc 3 - 3 Lepc 48 Olck 9 Cyrl 7 - 43 Geor 2 - 3 Geor 8 Sund 8 -
3 Zinh 1 Zyyy 13 Zinh 1 Zyyy 7 Zinh 4 Zyyy 1 Zinh 6 Zyyy 1 Zinh 3 Zyyy 2 Zinh
1 Zyyy 5 - 38 Latn 5 Grek 1 Cyrl 49 Latn 5 Grek 4 Latn 5 Grek 13 Latn 1 Cyrl
70 Latn 1 Grek 64 Zinh 256 Latn 22 Grek 2 - 6 Grek 2 - 38 Grek 2 - 6 Grek 2 -
8 Grek 1 - 1 Grek 1 - 1 Grek 1 - 1 Grek 1 - 31 Grek 2 - 53 Grek 1 - 15 Grek 1 -
14 Grek 2 - 6 Grek 1 - 19 Grek 2 - 3 Grek 1 - 9 Grek 1 - 12 Zyyy 2 Zinh 87 Zyyy
1 - 11 Zyyy 1 Latn 2 - 11 Zyyy 1 Latn 15 Zyyy 1 - 13 Latn 3 - 33 Zyyy 15 -
33 Zinh 15 - 38 Zyyy 1 Grek 3 Zyyy 2 Latn 6 Zyyy 1 Latn 27 Zyyy 1 Latn 17 Zyyy
41 Latn 3 Zyyy 4 - 663 Zyyy 25 - 11 Zyyy 21 - 928 Zyyy 256 Brai 628 Zyyy 2 -
32 Zyyy 1 - 105 Zyyy 96 Glag 32 Latn 116 Copt 5 - 7 Copt 38 Geor 1 - 1 Geor 5 -
1 Geor 2 - 56 Tfng 7 - 2 Tfng 14 - 1 Tfng 23 Ethi 9 - 7 Ethi 1 - 7 Ethi 1 -
7 Ethi 1 - 7 Ethi 1 - 7 Ethi 1 - 7 Ethi 1 - 7 Ethi 1 - 7 Ethi 1 - 32 Cyrl
94 Zyyy 34 - 26 Hani 1 - 89 Hani 12 - 214 Hani 26 - 12 Zyyy 4 - 5 Zyyy 1 Hani
1 Zyyy 1 Hani 25 Zyyy 9 Hani 4 Zinh 2 Hang 8 Zyyy 4 Hani 4 Zyyy 1 - 86 Hira 2 -
2 Zinh 2 Zyyy 3 Hira 1 Zyyy 90 Kana 2 Zyyy 3 Kana 5 - 43 Bopo 1 - 94 Hang 1 -
16 Zyyy 32 Bopo 36 Zyyy 12 - 16 Kana 31 Hang 1 - 64 Zyyy 31 Hang 81 Zyyy 47 Kana
1 Zyyy 88 Kana 168 Zyyy 6592 Hani 64 Zyyy 20992 Hani 1165 Yiii 3 - 55 Yiii 9 -
48 Lisu 300 Vaii 20 - 96 Cyrl 88 Bamu 8 - 34 Zyyy 102 Latn 3 Zyyy 64 Latn 5 -
2 Latn 1 - 1 Latn 1 - 5 Latn 24 - 14 Latn 45 Sylo 3 - 10 Zyyy 6 - 56 Phag 8 -
70 Saur 8 - 12 Saur 6 - 32 Deva 46 Kali 1 Zyyy 1 Kali 36 Rjng 11 - 1 Rjng
29 Hang 3 - 78 Java 1 - 1 Zyyy 10 Java 4 - 2 Java 31 Mymr 1 - 55 Cham 9 -
14 Cham 2 - 10 Cham 2 - 4 Cham 32 Mymr 67 Tavt 24 - 5 Tavt 23 Mtei 10 - 6 Ethi
2 - 6 Ethi 2 - 6 Ethi 9 - 7 Ethi 1 - 7 Ethi 1 - 43 Latn 1 Zyyy 9 Latn 1 Grek
4 Latn 2 Zyyy 4 - 80 Cher 46 Mtei 2 - 10 Mtei 6 - 11172 Hang 12 - 23 Hang 4 -
49 Hang 8452 - 366 Hani 2 - 106 Hani 38 - 7 Latn 12 - 5 Armn 5 - 26 Hebr 1 -
5 Hebr 1 - 1 Hebr 1 - 2 Hebr 1 - 2 Hebr 1 - 10 Hebr 115 Arab 16 - 363 Arab
2 Zyyy 80 Arab 2 - 54 Arab 7 - 1 Arab 32 - 16 Arab 16 Zinh 10 Zyyy 6 - 14 Zinh
2 Cyrl 35 Zyyy 1 - 19 Zyyy 1 - 4 Zyyy 4 - 5 Arab 1 - 135 Arab 2 - 1 Zyyy 1 -
32 Zyyy 26 Latn 6 Zyyy 26 Latn 11 Zyyy 10 Kana 1 Zyyy 45 Kana 2 Zyyy 31 Hang 3 -
6 Hang 2 - 6 Hang 2 - 6 Hang 2 - 3 Hang 3 - 7 Zyyy 1 - 7 Zyyy 10 - 5 Zyyy 2 -
12 Linb 1 - 26 Linb 1 - 19 Linb 1 - 2 Linb 1 - 15 Linb 2 - 14 Linb 34 - 123 Linb
5 - 3 Zyyy 4 - 45 Zyyy 3 - 9 Zyyy 79 Grek 1 - 13 Zyyy 3 - 1 Grek 47 - 45 Zyyy
1 Zinh 130 - 29 Lyci 3 - 49 Cari 15 - 1 Zinh 27 Zyyy 4 - 36 Ital 9 - 3 Ital
27 Goth 5 - 43 Perm 5 - 30 Ugar 1 - 1 Ugar 36 Xpeo 4 - 14 Xpeo 42 - 80 Dsrt
48 Shaw 30 Osma 2 - 10 Osma 6 - 36 Osge 4 - 36 Osge 4 - 40 Elba 8 - 52 Aghb 11 -
1 Aghb 11 Vith 1 - 15 Vith 1 - 7 Vith 1 - 2 Vith 1 - 11 Vith 1 - 15 Vith 1 -
7 Vith 1 - 2 Vith 67 - 311 Lina 9 - 22 Lina 10 - 8 Lina 24 - 6 Latn 1 - 42 Latn
1 - 9 Latn 69 - 6 Cprt 2 - 1 Cprt 1 - 44 Cprt 1 - 2 Cprt 3 - 1 Cprt 2 - 1 Cprt
22 Armi 1 - 9 Armi 32 Palm 31 Nbat 8 - 9 Nbat 48 - 19 Hatr 1 - 2 Hatr 5 - 5 Hatr
28 Phnx 3 - 1 Phnx 26 Lydi 5 - 1 Lydi 64 - 32 Mero 24 Merc 4 - 20 Merc 2 -
46 Merc 4 Khar 1 - 2 Khar 5 - 8 Khar 1 - 3 Khar 1 - 29 Khar 2 - 3 Khar 4 -
10 Khar 7 - 9 Khar 7 - 32 Sarb 32 Narb 32 - 39 Mani 4 - 12 Mani 9 - 54 Avst 3 -
7 Avst 22 Prti 2 - 8 Prti 19 Phli 5 - 8 Phli 18 Phlp 7 - 4 Phlp 12 - 7 Phlp 80 -
73 Orkh 55 - 51 Hung 13 - 51 Hung 7 - 6 Hung 40 Rohg 8 - 10 Rohg 294 - 31 Arab
1 - 42 Yezi 1 - 3 Yezi 2 - 2 Yezi 75 - 3 Arab 40 Sogo 8 - 42 Sogd 22 - 26 Ougr
38 - 28 Chrs 20 - 23 Elym 9 - 78 Brah 4 - 36 Brah 9 - 1 Brah 67 Kthi 10 - 1 Kthi
2 - 25 Sora 7 - 10 Sora 6 - 53 Cakm 1 - 18 Cakm 8 - 39 Mahj 9 - 96 Shrd 1 -
20 Sinh 11 - 18 Khoj 1 - 47 Khoj 62 - 7 Mult 1 - 1 Mult 1 - 4 Mult 1 - 15 Mult
1 - 11 Mult 6 - 59 Sind 5 - 10 Sind 6 - 4 Gran 1 - 8 Gran 2 - 2 Gran 2 - 22 Gran
1 - 7 Gran 1 - 2 Gran 1 - 5 Gran 1 - 1 Zinh 9 Gran 2 - 2 Gran 2 - 3 Gran 2 -
1 Gran 6 - 1 Gran 5 - 7 Gran 2 - 7 Gran 3 - 5 Gran 139 - 92 Newa 1 - 5 Newa 30 -
72 Tirh 8 - 10 Tirh 166 - 54 Sidd 2 - 38 Sidd 34 - 69 Modi 11 - 10 Modi 6 -
13 Mong 19 - 58 Takr 6 - 10 Takr 54 - 27 Ahom 2 - 15 Ahom 4 - 23 Ahom 185 -
60 Dogr 100 - 83 Wara 12 - 1 Wara 7 Diak 2 - 1 Diak 2 - 8 Diak 1 - 2 Diak 1 -
30 Diak 1 - 2 Diak 2 - 12 Diak 9 - 10 Diak 70 - 8 Nand 2 - 46 Nand 2 - 11 Nand
27 - 72 Zanb 8 - 83 Soyo 13 - 16 Cans 57 Pauc 7 - 10 Deva 246 - 9 Bhks 1 -
45 Bhks 1 - 14 Bhks 10 - 29 Bhks 3 - 32 Marc 2 - 22 Marc 1 - 14 Marc 73 - 7 Gonm
1 - 2 Gonm 1 - 44 Gonm 3 - 1 Gonm 1 - 2 Gonm 1 - 9 Gonm 8 - 10 Gonm 6 - 6 Gong
1 - 2 Gong 1 - 37 Gong 1 - 2 Gong 1 - 6 Gong 7 - 10 Gong 310 - 25 Maka 7 -
17 Kawi 1 - 41 Kawi 3 - 28 Kawi 86 - 1 Lisu 15 - 50 Taml 13 - 1 Taml 922 Xsux
102 - 111 Xsux 1 - 5 Xsux 11 - 196 Xsux 2636 - 99 Cpmn 13 - 1110 Egyp 4010 -
583 Hluw 8633 - 569 Bamu 7 - 31 Mroo 1 - 10 Mroo 4 - 2 Mroo 79 Tnsa 1 - 10 Tnsa
6 - 30 Bass 2 - 6 Bass 10 - 70 Hmng 10 - 10 Hmng 1 - 7 Hmng 1 - 21 Hmng 5 -
19 Hmng 688 - 91 Medf 101 - 75 Plrd 4 - 57 Plrd 7 - 17 Plrd 64 - 1 Tang 1 Nshu
2 Hani 1 Kits 11 - 2 Hani 14 - 6136 Tang 8 - 768 Tang 470 Kits 42 - 9 Tang
8935 - 4 Kana 1 - 7 Kana 1 - 2 Kana 1 - 1 Kana 287 Hira 3 Kana 15 - 1 Hira 29 -
3 Hira 2 - 1 Kana 14 - 4 Kana 8 - 396 Nshu 2308 - 107 Dupl 5 - 13 Dupl 3 -
9 Dupl 7 - 10 Dupl 2 - 4 Dupl 4 Zyyy 4700 - 46 Zinh 2 - 23 Zinh 9 - 116 Zyyy
60 - 246 Zyyy 10 - 39 Zyyy 2 - 62 Zyyy 3 Zinh 17 Zyyy 8 Zinh 2 Zyyy 7 Zinh
30 Zyyy 4 Zinh 61 Zyyy 21 - 70 Grek 122 - 20 Zyyy 12 - 20 Zyyy 12 - 87 Zyyy 9 -
25 Zyyy 135 - 85 Zyyy 1 - 71 Zyyy 1 - 2 Zyyy 2 - 1 Zyyy 2 - 2 Zyyy 2 - 4 Zyyy
1 - 12 Zyyy 1 - 1 Zyyy 1 - 7 Zyyy 1 - 65 Zyyy 1 - 4 Zyyy 2 - 8 Zyyy 1 - 7 Zyyy
1 - 28 Zyyy 1 - 4 Zyyy 1 - 5 Zyyy 1 - 1 Zyyy 3 - 7 Zyyy 1 - 340 Zyyy 2 -
292 Zyyy 2 - 50 Zyyy 652 Sgnw 15 - 5 Sgnw 1 - 15 Sgnw 1104 - 31 Latn 6 - 6 Latn
213 - 7 Glag 1 - 17 Glag 2 - 7 Glag 1 - 2 Glag 1 - 5 Glag 5 - 62 Cyrl 33 -
1 Cyrl 112 - 45 Hmnp 3 - 14 Hmnp 2 - 10 Hmnp 4 - 2 Hmnp 320 - 31 Toto 17 -
58 Wcho 5 - 1 Wcho 464 - 42 Nagm 742 - 7 Ethi 1 - 4 Ethi 1 - 2 Ethi 1 - 15 Ethi
1 - 197 Mend 2 - 16 Mend 41 - 76 Adlm 4 - 10 Adlm 4 - 2 Adlm 785 - 68 Zyyy 76 -
61 Zyyy 194 - 4 Arab 1 - 27 Arab 1 - 2 Arab 1 - 1 Arab 2 - 1 Arab 1 - 10 Arab
1 - 4 Arab 1 - 1 Arab 1 - 1 Arab 6 - 1 Arab 4 - 1 Arab 1 - 1 Arab 1 - 1 Arab 1 -
3 Arab 1 - 2 Arab 1 - 1 Arab 2 - 1 Arab 1 - 1 Arab 1 - 1 Arab 1 - 1 Arab 1 -
1 Arab 1 - 2 Arab 1 - 1 Arab 2 - 4 Arab 1 - 7 Arab 1 - 4 Arab 1 - 4 Arab 1 -
1 Arab 1 - 10 Arab 1 - 17 Arab 5 - 3 Arab 1 - 5 Arab 1 - 17 Arab 52 - 2 Arab
270 - 44 Zyyy 4 - 100 Zyyy 12 - 15 Zyyy 2 - 15 Zyyy 1 - 15 Zyyy 1 - 37 Zyyy 10 -
174 Zyyy 56 - 26 Zyyy 1 Hira 2 Zyyy 13 - 44 Zyyy 4 - 9 Zyyy 7 - 2 Zyyy 14 -
6 Zyyy 154 - 984 Zyyy 4 - 17 Zyyy 3 - 13 Zyyy 3 - 119 Zyyy 4 - 95 Zyyy 6 -
12 Zyyy 4 - 1 Zyyy 15 - 12 Zyyy 4 - 56 Zyyy 8 - 10 Zyyy 6 - 40 Zyyy 8 - 30 Zyyy
2 - 2 Zyyy 78 - 340 Zyyy 12 - 14 Zyyy 2 - 13 Zyyy 3 - 9 Zyyy 7 - 46 Zyyy 1 -
7 Zyyy 8 - 14 Zyyy 4 - 9 Zyyy 7 - 9 Zyyy 7 - 147 Zyyy 1 - 55 Zyyy 37 - 10 Zyyy
1030 - 42720 Hani 32 - 4154 Hani 6 - 222 Hani 2 - 5762 Hani 14 - 7473 Hani
3103 - 542 Hani 1506 - 4939 Hani 5 - 4192 Hani 711761 - 1 Zyyy 30 - 96 Zyyy
128 - 240 Zinh"

/-- The four-letter code of each script and the names it goes by, in lower case
and without separators. -/
def names : List (String × List String) := [
  ("Adlm", ["adlm", "adlam"]),
  ("Aghb", ["aghb", "caucasianalbanian"]),
  ("Ahom", ["ahom"]),
  ("Arab", ["arab", "arabic"]),
  ("Armi", ["armi", "imperialaramaic"]),
  ("Armn", ["armn", "armenian"]),
  ("Avst", ["avst", "avestan"]),
  ("Bali", ["bali", "balinese"]),
  ("Bamu", ["bamu", "bamum"]),
  ("Bass", ["bass", "bassavah"]),
  ("Batk", ["batk", "batak"]),
  ("Beng", ["beng", "bengali"]),
  ("Bhks", ["bhks", "bhaiksuki"]),
  ("Bopo", ["bopo", "bopomofo"]),
  ("Brah", ["brah", "brahmi"]),
  ("Brai", ["brai", "braille"]),
  ("Bugi", ["bugi", "buginese"]),
  ("Buhd", ["buhd", "buhid"]),
  ("Cakm", ["cakm", "chakma"]),
  ("Cans", ["cans", "canadianaboriginal"]),
  ("Cari", ["cari", "carian"]),
  ("Cham", ["cham"]),
  ("Cher", ["cher", "cherokee"]),
  ("Chrs", ["chrs", "chorasmian"]),
  ("Copt", ["copt", "qaac", "coptic"]),
  ("Cpmn", ["cpmn", "cyprominoan"]),
  ("Cprt", ["cprt", "cypriot"]),
  ("Cyrl", ["cyrl", "cyrillic"]),
  ("Deva", ["deva", "devanagari"]),
  ("Diak", ["diak", "divesakuru"]),
  ("Dogr", ["dogr", "dogra"]),
  ("Dsrt", ["dsrt", "deseret"]),
  ("Dupl", ["dupl", "duployan"]),
  ("Egyp", ["egyp", "egyptianhieroglyphs"]),
  ("Elba", ["elba", "elbasan"]),
  ("Elym", ["elym", "elymaic"]),
  ("Ethi", ["ethi", "ethiopic"]),
  ("Geor", ["geor", "georgian"]),
  ("Glag", ["glag", "glagolitic"]),
  ("Gong", ["gong", "gunjalagondi"]),
  ("Gonm", ["gonm", "masaramgondi"]),
  ("Goth", ["goth", "gothic"]),
  ("Gran", ["gran", "grantha"]),
  ("Grek", ["grek", "greek"]),
  ("Gujr", ["gujr", "gujarati"]),
  ("Guru", ["guru", "gurmukhi"]),
  ("Hang", ["hang", "hangul"]),
  ("Hani", ["han", "hani"]),
  ("Hano", ["hano", "hanunoo"]),
  ("Hatr", ["hatr", "hatran"]),
  ("Hebr", ["hebr", "hebrew"]),
  ("Hira", ["hira", "hiragana"]),
  ("Hluw", ["hluw", "anatolianhieroglyphs"]),
  ("Hmng", ["hmng", "pahawhhmong"]),
  ("Hmnp", ["hmnp", "nyiakengpuachuehmong"]),
  ("Hung", ["hung", "oldhungarian"]),
  ("Ital", ["ital", "olditalic"]),
  ("Java", ["java", "javanese"]),
  ("Kali", ["kali", "kayahli"]),
  ("Kana", ["kana", "katakana"]),
  ("Kawi", ["kawi"]),
  ("Khar", ["khar", "kharoshthi"]),
  ("Khmr", ["khmr", "khmer"]),
  ("Khoj", ["khoj", "khojki"]),
  ("Kits", ["kits", "khitansmallscript"]),
  ("Knda", ["knda", "kannada"]),
  ("Kthi", ["kthi", "kaithi"]),
  ("Lana", ["lana", "taitham"]),
  ("Laoo", ["lao", "laoo"]),
  ("Latn", ["latn", "latin"]),
  ("Lepc", ["lepc", "lepcha"]),
  ("Limb", ["limb", "limbu"]),
  ("Lina", ["lina", "lineara"]),
  ("Linb", ["linb", "linearb"]),
  ("Lisu", ["lisu"]),
  ("Lyci", ["lyci", "lycian"]),
  ("Lydi", ["lydi", "lydian"]),
  ("Mahj", ["mahj", "mahajani"]),
  ("Maka", ["maka", "makasar"]),
  ("Mand", ["mand", "mandaic"]),
  ("Mani", ["mani", "manichaean"]),
  ("Marc", ["marc", "marchen"]),
  ("Medf", ["medf", "medefaidrin"]),
  ("Mend", ["mend", "mendekikakui"]),
  ("Merc", ["merc", "meroiticcursive"]),
  ("Mero", ["mero", "meroitichieroglyphs"]),
  ("Mlym", ["mlym", "malayalam"]),
  ("Modi", ["modi"]),
  ("Mong", ["mong", "mongolian"]),
  ("Mroo", ["mro", "mroo"]),
  ("Mtei", ["mtei", "meeteimayek"]),
  ("Mult", ["mult", "multani"]),
  ("Mymr", ["mymr", "myanmar"]),
  ("Nagm", ["nagm", "nagmundari"]),
  ("Nand", ["nand", "nandinagari"]),
  ("Narb", ["narb", "oldnortharabian"]),
  ("Nbat", ["nbat", "nabataean"]),
  ("Newa", ["newa"]),
  ("Nkoo", ["nko", "nkoo"]),
  ("Nshu", ["nshu", "nushu"]),
  ("Ogam", ["ogam", "ogham"]),
  ("Olck", ["olck", "olchiki"]),
  ("Orkh", ["orkh", "oldturkic"]),
  ("Orya", ["orya", "oriya"]),
  ("Osge", ["osge", "osage"]),
  ("Osma", ["osma", "osmanya"]),
  ("Ougr", ["ougr", "olduyghur"]),
  ("Palm", ["palm", "palmyrene"]),
  ("Pauc", ["pauc", "paucinhau"]),
  ("Perm", ["perm", "oldpermic"]),
  ("Phag", ["phag", "phagspa"]),
  ("Phli", ["phli", "inscriptionalpahlavi"]),
  ("Phlp", ["phlp", "psalterpahlavi"]),
  ("Phnx", ["phnx", "phoenician"]),
  ("Plrd", ["miao", "plrd"]),
  ("Prti", ["prti", "inscriptionalparthian"]),
  ("Rjng", ["rjng", "rejang"]),
  ("Rohg", ["rohg", "hanifirohingya"]),
  ("Runr", ["runr", "runic"]),
  ("Samr", ["samr", "samaritan"]),
  ("Sarb", ["sarb", "oldsoutharabian"]),
  ("Saur", ["saur", "saurashtra"]),
  ("Sgnw", ["sgnw", "signwriting"]),
  ("Shaw", ["shaw", "shavian"]),
  ("Shrd", ["shrd", "sharada"]),
  ("Sidd", ["sidd", "siddham"]),
  ("Sind", ["sind", "khudawadi"]),
  ("Sinh", ["sinh", "sinhala"]),
  ("Sogd", ["sogd", "sogdian"]),
  ("Sogo", ["sogo", "oldsogdian"]),
  ("Sora", ["sora", "sorasompeng"]),
  ("Soyo", ["soyo", "soyombo"]),
  ("Sund", ["sund", "sundanese"]),
  ("Sylo", ["sylo", "sylotinagri"]),
  ("Syrc", ["syrc", "syriac"]),
  ("Tagb", ["tagb", "tagbanwa"]),
  ("Takr", ["takr", "takri"]),
  ("Tale", ["tale", "taile"]),
  ("Talu", ["talu", "newtailue"]),
  ("Taml", ["taml", "tamil"]),
  ("Tang", ["tang", "tangut"]),
  ("Tavt", ["tavt", "taiviet"]),
  ("Telu", ["telu", "telugu"]),
  ("Tfng", ["tfng", "tifinagh"]),
  ("Tglg", ["tglg", "tagalog"]),
  ("Thaa", ["thaa", "thaana"]),
  ("Thai", ["thai"]),
  ("Tibt", ["tibt", "tibetan"]),
  ("Tirh", ["tirh", "tirhuta"]),
  ("Tnsa", ["tnsa", "tangsa"]),
  ("Toto", ["toto"]),
  ("Ugar", ["ugar", "ugaritic"]),
  ("Vaii", ["vai", "vaii"]),
  ("Vith", ["vith", "vithkuqi"]),
  ("Wara", ["wara", "warangciti"]),
  ("Wcho", ["wcho", "wancho"]),
  ("Xpeo", ["xpeo", "oldpersian"]),
  ("Xsux", ["xsux", "cuneiform"]),
  ("Yezi", ["yezi", "yezidi"]),
  ("Yiii", ["yi", "yiii"]),
  ("Zanb", ["zanb", "zanabazarsquare"]),
  ("Zinh", ["qaai", "zinh", "inherited"]),
  ("Zyyy", ["zyyy", "common"])]

/-- The scripts whose code points are not all the code points used with them,
with the run lengths of the latter set. -/
def extended : List (String × String) := [
  ("Adlm", "
1567 1 32 1 123583 76 4 10 4 2"),
  ("Arab", "
1536 5 1 215 1 34 80 48 240 31 1 2 6 74 1 29 62032 115 16 445 2 54 7 1 32 16 112
5 1 135 995 28 2916 31 126 3 57088 4 1 27 1 2 1 1 2 1 1 10 1 4 1 1 1 1 6 1 4 1 1
1 1 1 1 3 1 2 1 1 2 1 1 1 1 1 1 1 1 1 1 2 1 1 2 4 1 7 1 4 1 4 1 1 1 10 1 17 5 3
1 5 1 17 52 2"),
  ("Beng", "
2385 2 17 2 26 4 1 8 2 2 2 22 1 7 1 1 3 4 2 9 2 2 2 4 8 1 4 2 1 5 2 25 4817 1 1
1 2 2 1 1 8 1 8 1 2 1 4 1 2 3 35833 1"),
  ("Bopo", "
746 2 11541 3 4 10 1 13 10 4 2 1 6 1 195 1 9 43 112 32 52357 2 282 5"),
  ("Bugi", "
6656 28 2 2 36783 1"),
  ("Buhd", "
5941 2 9 20"),
  ("Cakm", "
2534 10 1616 10 65718 53 1 18"),
  ("Copt", "
994 14 10384 116 5 7 54752 28"),
  ("Cpmn", "
65792 2 11918 99"),
  ("Cprt", "
65792 3 4 45 3 9 1728 6 2 1 1 44 1 2 3 1 2 1"),
  ("Cyrl", "
1024 304 5968 9 162 1 76 1 127 1 4071 32 67 1 30716 96 22414 2 57856 62 33 1"),
  ("Deva", "
2304 83 2 43 4944 39 1 2 1014 1 34623 10 166 32 29184 10"),
  ("Dogr", "
2404 12 40640 10 28614 60"),
  ("Dupl", "
113664 107 5 13 3 9 7 10 2 8"),
  ("Geor", "
4256 38 1 1 5 1 2 48 2960 43 2 3 4160 38 1 1 5 1"),
  ("Glag", "
1156 1 2 1 10104 96 483 1 30763 1 80272 7 1 17 2 7 1 2 1 5"),
  ("Gong", "
2404 2 70650 6 1 2 1 37 1 2 1 6 7 10"),
  ("Gonm", "
2404 2 70554 7 1 2 1 44 3 1 1 2 1 9 8 10"),
  ("Gran", "
2385 2 17 2 640 14 4316 1 1 2 30 3 3 2 1014 1 61967 4 1 8 2 2 2 22 1 7 1 2 1 5 1
10 2 2 2 3 2 1 6 1 5 7 2 7 3 5 3163 2 1 1"),
  ("Grek", "
834 1 2 1 42 4 1 3 2 4 1 1 4 1 1 1 1 3 1 1 1 20 1 63 14 16 6438 5 50 5 4 5 84 3
318 22 2 6 2 38 2 6 2 8 1 1 1 1 1 1 1 31 2 53 1 15 1 14 2 6 1 19 2 3 1 9 295 1
35390 1 21978 79 17 1 53343 70"),
  ("Gujr", "
2385 2 17 2 283 3 1 9 1 3 1 22 1 7 1 2 1 5 2 10 1 3 1 3 2 1 15 4 2 12 7 7 40240
10"),
  ("Guru", "
2385 2 17 2 155 3 1 6 4 2 2 22 1 7 1 2 1 2 1 2 2 1 1 5 4 2 2 3 3 1 7 4 1 1 7 17
40377 10"),
  ("Hang", "
4352 256 7681 3 4 10 1 13 14 3 6 1 195 1 53 94 113 31 65 31 30433 29 643 11172
12 23 4 49 9801 2 282 5 58 31 3 6 2 6 2 6 2 3"),
  ("Hani", "
11904 26 1 89 12 214 43 3 1 13 1 13 1 13 2 1 6 9 187 1 148 16 32 36 60 40 56 49
15 12 51 1 88 25 10 5 96 31 1 6592 64 20992 1792 8 20984 366 2 106 875 2 282 5
28796 2 12 2 25454 18 7902 2 3502 42720 32 4154 6 222 2 5762 14 7473 3103 542
1506 4939 5 4192"),
  ("Hano", "
5920 23"),
  ("Hira", "
12289 3 4 10 1 13 16 6 1 1 4 2 3 86 2 8 90 2 52552 2 282 5 10 1 45 2 45153 287
18 1 29 3 16557 1"),
  ("Java", "
43392 78 1 11 4 2"),
  ("Kali", "
43264 48"),
  ("Kana", "
12289 3 4 10 1 13 16 6 1 1 4 2 91 4 3 96 240 16 208 47 1 88 51949 2 282 63 45136
4 1 7 1 2 1 1 287 3 50 1 14 4"),
  ("Khoj", "
2790 10 40256 10 27078 18 1 47"),
  ("Knda", "
2385 2 17 2 794 13 1 3 1 23 1 10 1 5 2 9 1 3 1 4 7 2 6 2 1 4 2 10 1 3 4060 1 1 1
7 1 23 1 1 1 35643 6"),
  ("Kthi", "
2406 10 40640 10 26694 67 10 1"),
  ("Latn", "
65 26 6 26 47 1 15 1 5 23 1 31 1 449 39 5 126 13 277 2 1226 2 1960 1 3076 38 6
49 5 4 5 13 1 70 65 256 303 1 65 1 13 1 16 13 83 1 57 2 6 1 27 1 17 41 2775 32
31360 8 26 102 3 64 5 2 1 1 1 5 24 14 302 1 513 43 1 9 1 4 20374 7 1050 26 6 26
2085 6 1 42 1 9 55109 31 6 6"),
  ("Limb", "
2405 1 3994 31 1 12 4 12 4 1 3 12"),
  ("Lina", "
65799 45 1228 311 9 22 10 8"),
  ("Linb", "
65536 12 1 26 1 19 1 2 1 15 2 14 34 123 5 3 4 45 3 9"),
  ("Mahj", "
2404 12 40640 10 26902 39"),
  ("Mand", "
1600 1 511 28 2 1"),
  ("Mani", "
1600 1 66687 39 4 12"),
  ("Mlym", "
2385 2 17 2 922 13 1 3 1 51 1 3 1 6 4 16 2 26 3930 1 35669 3"),
  ("Modi", "
43056 10 28102 69 11 10"),
  ("Mong", "
6144 26 6 89 7 43 1924 1 63024 13"),
  ("Mult", "
2662 10 67600 7 1 1 1 4 1 15 1 11"),
  ("Mymr", "
4096 160 39054 1 177 31 97 32"),
  ("Nand", "
2404 2 896 10 4089 1 8 1 7 1 35637 6 29034 8 2 46 2 11"),
  ("Nkoo", "
1548 1 14 1 3 1 416 59 2 3 62782 2"),
  ("Orya", "
2385 2 17 2 411 3 1 8 2 2 2 22 1 7 1 2 1 5 2 9 2 2 2 3 7 3 4 2 1 5 2 18 4450 1
23 1"),
  ("Ougr", "
1600 1 66737 1 1149 26"),
  ("Perm", "
1155 1 65228 43"),
  ("Phag", "
6146 2 1 1 36922 56"),
  ("Phlp", "
1600 1 66879 18 7 4 12 7"),
  ("Rohg", "
1548 1 14 1 3 1 32 1 147 1 67115 40 8 10"),
  ("Shrd", "
2385 1 4997 1 1 1 2 2 2 1 62623 96"),
  ("Sind", "
2404 2 40650 10 27254 59 5 10"),
  ("Sinh", "
2404 2 1051 3 1 18 3 24 1 9 1 1 2 7 3 1 4 6 1 1 1 8 6 10 2 3 66540 20"),
  ("Sogd", "
1600 1 67823 42"),
  ("Sylo", "
2404 2 128 10 40464 45"),
  ("Syrc", "
1548 1 14 2 2 1 32 1 10 11 26 1 143 14 1 60 2 3 272 11 5517 1 1 1"),
  ("Tagb", "
5941 2 41 13 1 3 1 2"),
  ("Takr", "
2404 2 40650 10 28230 58 6 10"),
  ("Tale", "
4160 10 2310 30 2 5"),
  ("Taml", "
2385 2 17 2 540 2 1 6 3 3 1 4 3 2 1 1 1 2 3 2 3 3 3 12 4 5 3 3 1 4 2 1 6 1 14 21
4319 1 35864 1 27149 1 1 1 55 2 3203 50 13 1"),
  ("Telu", "
2385 2 17 2 666 13 1 3 1 23 1 16 2 9 1 3 1 4 7 2 1 3 2 1 2 4 2 10 7 9 4186 1 23
1"),
  ("Tglg", "
5888 22 9 1 21 2"),
  ("Thaa", "
1548 1 14 2 2 1 64 10 278 50 63040 1 10 1"),
  ("Tirh", "
2385 2 17 2 5004 1 35645 10 27718 72 8 10"),
  ("Yezi", "
1548 1 14 1 3 1 64 10 67606 42 1 3 2 2"),
  ("Yiii", "
12289 2 5 10 2 8 223 1 28420 1165 3 55 23194 5"),
  ("Zinh", "
768 66 1 2 1 29 1520 2 4443 31 755 54 1 1 1 5 524 2 194 32 56592 16 16 14 975 1
52482 46 2 23 544 3 17 8 2 7 30 4 798546 240"),
  ("Zyyy", "
0 65 26 6 26 47 1 15 1 5 23 1 31 1 449 39 5 5 2 20 116 1 9 1 6 1 1 1 637 1 215 1
516 1 1372 1 405 4 1810 3 2322 12 2 33 1 53 1 11 3 11 1 15 17 33 63 38 1 3 2 6 1
27 1 17 41 3 4 663 25 11 21 928 256 628 2 32 1 105 512 67 1 26 402 12 4 1 3 1 13
1 13 1 21 1 529 24 31 1 49 15 12 4 161 10 5 96 31 1 6592 64 22792 26 102 3 976 1
14 2 21156 10 22 21 2 12 1 19 1 4 147 1 1 32 26 6 26 6 127 7 1 7 10 5 402 13 51
45 52563 116 60 246 10 39 2 62 3 17 8 2 7 30 4 61 213 20 12 20 12 87 27 7 135 85
1 71 1 2 2 1 2 2 2 4 1 12 1 1 1 7 1 65 1 4 2 8 1 7 1 28 1 4 1 5 1 1 3 7 1 340 2
292 2 50 5233 68 76 61 706 44 4 100 12 15 2 15 1 15 1 37 10 174 56 26 1 2 13 44
4 9 23 6 154 984 4 17 3 13 3 119 4 95 6 12 4 1 15 12 4 56 8 10 6 40 8 30 2 2 78
340 12 14 2 13 3 9 7 46 1 7 8 14 4 9 7 9 7 147 1 55 37 10 787463 1 30 96")]

/-- The code of the script that goes by `name`. -/
def code? (name : Text) : Option String :=
  (names.find? fun s => s.2.any (·.toList = name)).map (·.1)

/-- The code points of the script that goes by `name`. -/
def named? (name : Text) : Option CodeSet :=
  (code? name).map fun code => runs.having [code.toList]

/-- The code points that are used with the script that goes by `name`. -/
def extensionNamed? (name : Text) : Option CodeSet :=
  (code? name).map fun code =>
    match extended.find? fun s => s.1 = code with
    | some s => CodeSet.ofRuns (CodeSet.numbers s.2)
    | none => runs.having [code.toList]

end Stubgen.Script
