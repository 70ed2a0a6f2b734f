import Reroute.Unicode.CharSet

/-!
The version of the character set in which every character came in.
-/

namespace Reroute.Unicode.Age

def versions : List (String × String) := [
  ("1.1", "g"), ("2.0", "h"), ("2.1", "i"), ("3.0", "j"), ("3.1", "k"), ("3.2", "l"),
  ("4.0", "m"), ("4.1", "n"), ("5.0", "o"), ("5.1", "p"), ("5.2", "q"), ("6.0", "r"),
  ("6.1", "s"), ("6.2", "t"), ("6.3", "u"), ("7.0", "v"), ("8.0", "w"), ("9.0", "x"),
  ("10.0", "y"), ("11.0", "z"), ("12.0", "G"), ("12.1", "H"), ("13.0", "I"), ("14.0", "J"),
  ("15.0", "K"), ("15.1", "L"), ("16.0", "M")]

/-- The runs of characters of one version: the first code point of each run and the letter of its
version, or a hyphen where there is no character. A run goes up to the next one. -/
def runs : List String := [
  "0g 1F6j 1FAg 218j 220l 221m 222j 234m 237n 242o 250g 2A9j 2AEm 2B0g 2DFj 2E0g 2EAj 2EFm",
  "300g 346j 34Fl 350m 358n 35Dm 360g 362j 363l 370p 374g 376p 378- 37Ag 37Bo 37Eg 37Fv",
  "380- 384g 38B- 38Cg 38D- 38Eg 3A2- 3A3g 3CFp 3D0g 3D7j 3D8l 3DAg 3DBj 3DCg 3DDj 3DEg",
  "3DFj 3E0g 3E1j 3E2g 3F4k 3F6l 3F7m 3FCn 400j 401g 40Dj 40Eg 450j 451g 45Dj 45Eg 487p",
  "488j 48Al 48Cj 490g 4C5l 4C7g 4C9l 4CBg 4CDl 4CFo 4D0g 4ECj 4EEg 4F6n 4F8g 4FAo 500l",
  "510o 514p 524q 526r 528v 530- 531g 557- 559g 560z 561g 588z 589g 58Aj 58B- 58Dv 58Fs",
  "590- 591h 5A2n 5A3h 5B0g 5BAo 5BBg 5C4h 5C5n 5C8- 5D0g 5EB- 5EFz 5F0g 5F5- 600m 604s",
  "605v 606p 60Bn 60Cg 60Dm 616p 61Bg 61Cu 61DJ 61En 61Fg 620r 621g 63Bp 640g 653j 656m",
  "659n 65Fr 660g 66El 670g 6B8j 6BAg 6BFj 6C0g 6CFj 6D0g 6EEm 6F0g 6FAj 6FFm 700j 70E-",
  "70Fj 72Dm 730j 74B- 74Dm 750n 76Ep 780j 7B1l 7B2- 7C0o 7FB- 7FDz 800q 82E- 830q 83F-",
  "840r 85C- 85Er 85F- 860y 86B- 870J 88F- 890J 892- 897M 898J 8A0s 8A1v 8A2s 8ADv 8B3w",
  "8B5J 8B6x 8BEI 8C8J 8D3z 8D4x 8E3w 8E4s 8FFv 900q 901g 904m 905g 93Ar 93Cg 94Eq 94Fr",
  "950g 955q 956r 958g 971p 973r 978v 979q 97Bo 97Dn 97Eo 980v 981g 984- 985g 98D- 98Fg",
  "991- 993g 9A9- 9AAg 9B1- 9B2g 9B3- 9B6g 9BA- 9BCg 9BDm 9BEg 9C5- 9C7g 9C9- 9CBg 9CEn",
  "9CF- 9D7g 9D8- 9DCg 9DE- 9DFg 9E4- 9E6g 9FBq 9FCy 9FEz 9FF- A01m A02g A03m A04- A05g",
  "A0B- A0Fg A11- A13g A29- A2Ag A31- A32g A34- A35g A37- A38g A3A- A3Cg A3D- A3Eg A43-",
  "A47g A49- A4Bg A4E- A51p A52- A59g A5D- A5Eg A5F- A66g A75p A76z A77- A81g A84- A85g",
  "A8Cm A8Dg A8E- A8Fg A92- A93g AA9- AAAg AB1- AB2g AB4- AB5g ABA- ABCg AC6- AC7g ACA-",
  "ACBg ACE- AD0g AD1- AE0g AE1m AE4- AE6g AF0s AF1m AF2- AF9w AFAy B00- B01g B04- B05g",
  "B0D- B0Fg B11- B13g B29- B2Ag B31- B32g B34- B35m B36g B3A- B3Cg B44p B45- B47g B49-",
  "B4Bg B4E- B55I B56g B58- B5Cg B5E- B5Fg B62p B64- B66g B71m B72r B78- B82g B84- B85g",
  "B8B- B8Eg B91- B92g B96- B99g B9B- B9Cg B9D- B9Eg BA0- BA3g BA5- BA8g BAB- BAEg BB6n",
  "BB7g BBA- BBEg BC3- BC6g BC9- BCAg BCE- BD0p BD1- BD7g BD8- BE6n BE7g BF3m BFB- C00v",
  "C01g C04z C05g C0D- C0Eg C11- C12g C29- C2Ag C34v C35g C3A- C3CJ C3Dp C3Eg C45- C46g",
  "C49- C4Ag C4E- C55g C57- C58p C5Aw C5B- C5DJ C5E- C60g C62p C64- C66g C70- C77G C78p",
  "C80x C81v C82g C84z C85g C8D- C8Eg C91- C92g CA9- CAAg CB4- CB5g CBA- CBCm CBEg CC5-",
  "CC6g CC9- CCAg CCE- CD5g CD7- CDDJ CDEg CDF- CE0g CE2o CE4- CE6g CF0- CF1o CF3K CF4-",
  "D00y D01v D02g D04I D05g D0D- D0Eg D11- D12g D29r D2Ag D3Ar D3By D3Dp D3Eg D44p D45-",
  "D46g D49- D4Ag D4Er D4Fx D50- D54x D57g D58x D5Fw D60g D62p D64- D66g D70p D76x D79p",
  "D80- D81I D82j D84- D85j D97- D9Aj DB2- DB3j DBC- DBDj DBE- DC0j DC7- DCAj DCB- DCFj",
  "DD5- DD6j DD7- DD8j DE0- DE6v DF0- DF2j DF5- E01g E3B- E3Fg E5C- E81g E83- E84g E85-",
  "E86G E87g E89G E8Ag E8B- E8CG E8Dg E8EG E94g E98G E99g EA0G EA1g EA4- EA5g EA6- EA7g",
  "EA8G EAAg EACG EADg EBAG EBBg EBE- EC0g EC5- EC6g EC7- EC8g ECEK ECF- ED0g EDA- EDCg",
  "EDEs EE0- F00h F48- F49h F6Aj F6Bp F6D- F71h F8Cr F90h F96j F97h F98- F99h FAEj FB1h",
  "FB8j FB9h FBAj FBD- FBEj FCD- FCEp FCFj FD0n FD2p FD5q FD9r FDB- 1000j 1022p 1023j 1028p",
  "1029j 102Bp 102Cj 1033p 1036j 103Ap 1040j 105Ap 109Aq 109Ep 10A0g 10C6- 10C7s 10C8-",
  "10CDs 10CE- 10D0g 10F7l 10F9n 10FBg 10FCn 10FDs 1100g 115Aq 115Fg 11A3q 11A8g 11FAq",
  "1200j 1207n 1208j 1247n 1248j 1249- 124Aj 124E- 1250j 1257- 1258j 1259- 125Aj 125E-",
  "1260j 1287n 1288j 1289- 128Aj 128E- 1290j 12AFn 12B0j 12B1- 12B2j 12B6- 12B8j 12BF-",
  "12C0j 12C1- 12C2j 12C6- 12C8j 12CFn 12D0j 12D7- 12D8j 12EFn 12F0j 130Fn 1310j 1311-",
  "1312j 1316- 1318j 131Fn 1320j 1347n 1348j 135B- 135Dr 135Fn 1361j 137D- 1380n 139A-",
  "13A0j 13F5w 13F6- 13F8w 13FE- 1400q 1401j 1677q 1680j 169D- 16A0j 16F1v 16F9- 1700l",
  "170DJ 170El 1715J 1716- 171FJ 1720l 1737- 1740l 1754- 1760l 176D- 176El 1771- 1772l",
  "1774- 1780j 17DDm 17DE- 17E0j 17EA- 17F0m 17FA- 1800j 180FJ 1810j 181A- 1820j 1878z",
  "1879- 1880j 18AAp 18AB- 18B0q 18F6- 1900m 191Dv 191F- 1920m 192C- 1930m 193C- 1940m",
  "1941- 1944m 196E- 1970m 1975- 1980n 19AAq 19AC- 19B0n 19CA- 19D0n 19DAq 19DB- 19DEn",
  "19E0m 1A00n 1A1C- 1A1En 1A20q 1A5F- 1A60q 1A7D- 1A7Fq 1A8A- 1A90q 1A9A- 1AA0q 1AAE-",
  "1AB0v 1ABFI 1AC1J 1ACF- 1B00o 1B4CJ 1B4D- 1B4EM 1B50o 1B7DJ 1B7FM 1B80p 1BABs 1BAEp",
  "1BBAs 1BC0r 1BF4- 1BFCr 1C00p 1C38- 1C3Bp 1C4A- 1C4Dp 1C80x 1C89M 1C8B- 1C90z 1CBB-",
  "1CBDz 1CC0s 1CC8- 1CD0q 1CF3s 1CF7y 1CF8v 1CFAG 1CFB- 1D00m 1D6Cn 1DC4o 1DCBp 1DE7v",
  "1DF6y 1DFAJ 1DFBx 1DFCr 1DFDq 1DFEo 1E00g 1E9Bh 1E9Cp 1EA0g 1EFAp 1F00g 1F16- 1F18g",
  "1F1E- 1F20g 1F46- 1F48g 1F4E- 1F50g 1F58- 1F59g 1F5A- 1F5Bg 1F5C- 1F5Dg 1F5E- 1F5Fg",
  "1F7E- 1F80g 1FB5- 1FB6g 1FC5- 1FC6g 1FD4- 1FD6g 1FDC- 1FDDg 1FF0- 1FF2g 1FF5- 1FF6g",
  "1FFF- 2000g 202Fj 2030g 2047l 2048j 204El 2053m 2055n 2057l 2058n 205Fl 2064p 2065-",
  "2066u 206Ag 2071l 2072- 2074g 208F- 2090n 2095r 209D- 20A0g 20ABh 20ACi 20ADj 20B0l",
  "20B2n 20B6q 20B9r 20BAt 20BBv 20BEw 20BFy 20C0J 20C1- 20D0g 20E2j 20E4l 20EBn 20ECo",
  "20F0p 20F1- 2100g 2139j 213Bm 213Cn 213Dl 214Cn 214Do 214Fp 2150q 2153g 2183j 2184o",
  "2185p 2189q 218Aw 218C- 2190g 21EBj 21F4l 2200g 22F2l 2300g 2301j 2302g 237Bj 237Cl",
  "237Dj 239Bl 23CFm 23D1n 23DCo 23E8q 23E9r 23F4v 23FBx 23FFy 2400g 2425j 2427M 242A-",
  "2440g 244B- 2460g 24EBl 24FFm 2500g 2596l 25A0g 25F0j 25F8l 2600g 2614m 2616l 2618n",
  "2619j 261Ag 2670j 2672l 267En 2680l 268Am 2692n 269Dp 269Eq 26A0m 26A2n 26B2o 26B3p",
  "26BDq 26C0p 26C4q 26CEr 26CFq 26E2r 26E3q 26E4r 26E8q 2700v 2701g 2705r 2706g 270Ar",
  "270Cg 2728r 2729g 274Cr 274Dg 274Er 274Fg 2753r 2756g 2757q 2758g 275Fr 2761g 2768l",
  "2776g 2795r 2798g 27B0r 27B1g 27BFr 27C0n 27C7o 27CBs 27CCp 27CDs 27CEr 27D0l 27ECp",
  "27F0l 2800j 2900l 2B00m 2B0En 2B14o 2B1Bp 2B20o 2B24p 2B4Dv 2B50p 2B55q 2B5Av 2B74-",
  "2B76v 2B96- 2B97I 2B98v 2BBAz 2BBDv 2BC9G 2BCAv 2BD2y 2BD3z 2BECw 2BF0z 2BFFG 2C00n",
  "2C2FJ 2C30n 2C5FJ 2C60o 2C6Dp 2C70q 2C71p 2C74o 2C78p 2C7Eq 2C80n 2CEBq 2CF2s 2CF4-",
  "2CF9n 2D26- 2D27s 2D28- 2D2Ds 2D2E- 2D30n 2D66s 2D68- 2D6Fn 2D70r 2D71- 2D7Fr 2D80n",
  "2D97- 2DA0n 2DA7- 2DA8n 2DAF- 2DB0n 2DB7- 2DB8n 2DBF- 2DC0n 2DC7- 2DC8n 2DCF- 2DD0n",
  "2DD7- 2DD8n 2DDF- 2DE0p 2E00n 2E18p 2E1Cn 2E1Ep 2E31q 2E32s 2E3Cv 2E43x 2E45y 2E4Az",
  "2E4FG 2E50I 2E53J 2E5E- 2E80j 2E9A- 2E9Bj 2EF4- 2F00j 2FD6- 2FF0j 2FFCL 3000g 3038j",
  "303Bl 303Ej 303Fg 3040- 3041g 3095l 3097- 3099g 309Fl 30A1g 30FFl 3100- 3105g 312Dp",
  "312Ey 312Fz 3130- 3131g 318F- 3190g 31A0j 31B8r 31BBI 31C0n 31D0p 31E4M 31E6- 31EFL",
  "31F0l 3200g 321Dm 321F- 3220g 3244q 3250m 3251l 3260g 327Cm 327En 327Fg 32B1l 32C0g",
  "32CCm 32D0g 32FFH 3300g 3377m 337Bg 33DEm 33E0g 33FFm 3400j 4DB6I 4DC0m 4E00g 9FA6n",
  "9FBCp 9FC4q 9FCCs 9FCDw 9FD6y 9FEBz 9FF0I 9FFDJ A000j A48D- A490j A4A2l A4A4j A4B4l",
  "A4B5j A4C1l A4C2j A4C5l A4C6j A4C7- A4D0q A500p A62C- A640p A660r A662p A674s A67Cp",
  "A698v A69Ew A69Fs A6A0q A6F8- A700n A717o A71Bp A720o A722p A78Dr A78Fw A790r A792s",
  "A794v A7A0r A7AAs A7ABv A7AEx A7AFz A7B0v A7B2w A7B8z A7BAG A7C0J A7C2G A7C7I A7CBM",
  "A7CE- A7D0J A7D2- A7D3J A7D4- A7D5J A7DAM A7DD- A7F2J A7F5I A7F7v A7F8s A7FAr A7FBp",
  "A800n A82CI A82D- A830q A83A- A840o A878- A880p A8C5x A8C6- A8CEp A8DA- A8E0q A8FCw",
  "A8FEz A900p A954- A95Fp A960q A97D- A980q A9CE- A9CFq A9DA- A9DEq A9E0v A9FF- AA00p",
  "AA37- AA40p AA4E- AA50p AA5A- AA5Cp AA60q AA7Cv AA80q AAC3- AADBq AAE0s AAF7- AB01r",
  "AB07- AB09r AB0F- AB11r AB17- AB20r AB27- AB28r AB2F- AB30v AB60w AB64v AB66G AB68I",
  "AB6C- AB70w ABC0q ABEE- ABF0q ABFA- AC00h D7A4- D7B0q D7C7- D7CBq D7FC- D800h E000g",
  "FA2Es FA30l FA6Bq FA6E- FA70n FADA- FB00g FB07- FB13g FB18- FB1Dj FB1Eg FB37- FB38g",
  "FB3D- FB3Eg FB3F- FB40g FB42- FB43g FB45- FB46g FBB2r FBC2J FBC3- FBD3g FD40J FD50g",
  "FD90- FD92g FDC8- FDCFJ FDD0k FDF0g FDFCl FDFDm FDFEJ FE00l FE10n FE1A- FE20g FE24p",
  "FE27v FE2Ew FE30g FE45l FE47m FE49g FE53- FE54g FE67- FE68g FE6C- FE70g FE73l FE74g",
  "FE75- FE76g FEFD- FEFFg FF00- FF01g FF5Fl FF61g FFBF- FFC2g FFC8- FFCAg FFD0- FFD2g",
  "FFD8- FFDAg FFDD- FFE0g FFE7- FFE8g FFEF- FFF9j FFFCi FFFDg 10000m 1000C- 1000Dm 10027-",
  "10028m 1003B- 1003Cm 1003E- 1003Fm 1004E- 10050m 1005E- 10080m 100FB- 10100m 10103-",
  "10107m 10134- 10137m 10140n 1018Bv 1018Dx 1018F- 10190p 1019CI 1019D- 101A0v 101A1-",
  "101D0p 101FE- 10280p 1029D- 102A0p 102D1- 102E0v 102FC- 10300k 1031Fv 10320k 10324-",
  "1032Dy 10330k 1034B- 10350v 1037B- 10380m 1039E- 1039Fm 103A0n 103C4- 103C8n 103D6-",
  "10400k 10426m 10428k 1044Em 1049E- 104A0m 104AA- 104B0x 104D4- 104D8x 104FC- 10500v",
  "10528- 10530v 10564- 1056Fv 10570J 1057B- 1057CJ 1058B- 1058CJ 10593- 10594J 10596-",
  "10597J 105A2- 105A3J 105B2- 105B3J 105BA- 105BBJ 105BD- 105C0M 105F4- 10600v 10737-",
  "10740v 10756- 10760v 10768- 10780J 10786- 10787J 107B1- 107B2J 107BB- 10800m 10806-",
  "10808m 10809- 1080Am 10836- 10837m 10839- 1083Cm 1083D- 1083Fm 10840q 10856- 10857q",
  "10860v 1089F- 108A7v 108B0- 108E0w 108F3- 108F4w 108F6- 108FBw 10900o 1091Aq 1091C-",
  "1091Fo 10920p 1093A- 1093Fp 10940- 10980s 109B8- 109BCw 109BEs 109C0w 109D0- 109D2w",
  "10A00n 10A04- 10A05n 10A07- 10A0Cn 10A14- 10A15n 10A18- 10A19n 10A34z 10A36- 10A38n",
  "10A3B- 10A3Fn 10A48z 10A49- 10A50n 10A59- 10A60q 10A80v 10AA0- 10AC0v 10AE7- 10AEBv",
  "10AF7- 10B00q 10B36- 10B39q 10B56- 10B58q 10B73- 10B78q 10B80v 10B92- 10B99v 10B9D-",
  "10BA9v 10BB0- 10C00q 10C49- 10C80w 10CB3- 10CC0w 10CF3- 10CFAw 10D00z 10D28- 10D30z",
  "10D3A- 10D40M 10D66- 10D69M 10D86- 10D8EM 10D90- 10E60q 10E7F- 10E80I 10EAA- 10EABI",
  "10EAE- 10EB0I 10EB2- 10EC2M 10EC5- 10EFCM 10EFDK 10F00z 10F28- 10F30z 10F5A- 10F70J",
  "10F8A- 10FB0I 10FCC- 10FE0G 10FF7- 11000r 1104E- 11052r 11070J 11076- 1107Fv 11080q",
  "110C2J 110C3- 110CDz 110CE- 110D0s 110E9- 110F0s 110FA- 11100s 11135- 11136s 11144z",
  "11147I 11148- 11150v 11177- 11180s 111C9w 111CDv 111CEI 111D0s 111DAv 111DBw 111E0-",
  "111E1v 111F5- 11200v 11212- 11213v 1123Ex 1123FK 11242- 11280w 11287- 11288w 11289-",
  "1128Aw 1128E- 1128Fw 1129E- 1129Fw 112AA- 112B0v 112EB- 112F0v 112FA- 11300w 11301v",
  "11304- 11305v 1130D- 1130Fv 11311- 11313v 11329- 1132Av 11331- 11332v 11334- 11335v",
  "1133A- 1133Bz 1133Cv 11345- 11347v 11349- 1134Bv 1134E- 11350w 11351- 11357v 11358-",
  "1135Dv 11364- 11366v 1136D- 11370v 11375- 11380M 1138A- 1138BM 1138C- 1138EM 1138F-",
  "11390M 113B6- 113B7M 113C1- 113C2M 113C3- 113C5M 113C6- 113C7M 113CB- 113CCM 113D6-",
  "113D7M 113D9- 113E1M 113E3- 11400x 1145AI 1145Bx 1145C- 1145Dx 1145Ez 1145FG 11460I",
  "11462- 11480v 114C8- 114D0v 114DA- 11580v 115B6- 115B8v 115CAw 115DE- 11600v 11645-",
  "11650v 1165A- 11660x 1166D- 11680s 116B8G 116B9J 116BA- 116C0s 116CA- 116D0M 116E4-",
  "11700w 1171Az 1171B- 1171Dw 1172C- 11730w 11740J 11747- 11800z 1183C- 118A0v 118F3-",
  "118FFv 11900I 11907- 11909I 1190A- 1190CI 11914- 11915I 11917- 11918I 11936- 11937I",
  "11939- 1193BI 11947- 11950I 1195A- 119A0G 119A8- 119AAG 119D8- 119DAG 119E5- 11A00y",
  "11A48- 11A50y 11A84G 11A86y 11A9Dz 11A9Ey 11AA3- 11AB0J 11AC0v 11AF9- 11B00K 11B0A-",
  "11BC0M 11BE2- 11BF0M 11BFA- 11C00x 11C09- 11C0Ax 11C37- 11C38x 11C46- 11C50x 11C6D-",
  "11C70x 11C90- 11C92x 11CA8- 11CA9x 11CB7- 11D00y 11D07- 11D08y 11D0A- 11D0By 11D37-",
  "11D3Ay 11D3B- 11D3Cy 11D3E- 11D3Fy 11D48- 11D50y 11D5A- 11D60z 11D66- 11D67z 11D69-",
  "11D6Az 11D8F- 11D90z 11D92- 11D93z 11D99- 11DA0z 11DAA- 11EE0z 11EF9- 11F00K 11F11-",
  "11F12K 11F3B- 11F3EK 11F5AM 11F5B- 11FB0I 11FB1- 11FC0G 11FF2- 11FFFG 12000o 1236Fv",
  "12399w 1239A- 12400o 12463v 1246F- 12470o 12474v 12475- 12480w 12544- 12F90J 12FF3-",
  "13000q 1342FK 13430G 13439K 13456- 13460M 143FB- 14400w 14647- 16100M 1613A- 16800r",
  "16A39- 16A40v 16A5F- 16A60v 16A6A- 16A6Ev 16A70J 16ABF- 16AC0J 16ACA- 16AD0v 16AEE-",
  "16AF0v 16AF6- 16B00v 16B46- 16B50v 16B5A- 16B5Bv 16B62- 16B63v 16B78- 16B7Dv 16B90-",
  "16D40M 16D7A- 16E40z 16E9B- 16F00s 16F45G 16F4B- 16F4FG 16F50s 16F7FG 16F88- 16F8Fs",
  "16FA0- 16FE0x 16FE1y 16FE2G 16FE4I 16FE5- 16FF0I 16FF2- 17000x 187EDz 187F2G 187F8-",
  "18800x 18AF3I 18CD6- 18CFFM 18D00I 18D09- 1AFF0J 1AFF4- 1AFF5J 1AFFC- 1AFFDJ 1AFFF-",
  "1B000r 1B002y 1B11FJ 1B123- 1B132K 1B133- 1B150G 1B153- 1B155K 1B156- 1B164G 1B168-",
  "1B170y 1B2FC- 1BC00v 1BC6B- 1BC70v 1BC7D- 1BC80v 1BC89- 1BC90v 1BC9A- 1BC9Cv 1BCA4-",
  "1CC00M 1CCFA- 1CD00M 1CEB4- 1CF00J 1CF2E- 1CF30J 1CF47- 1CF50J 1CFC4- 1D000k 1D0F6-",
  "1D100k 1D127- 1D129p 1D12Ak 1D1DEw 1D1E9J 1D1EB- 1D200n 1D246- 1D2C0K 1D2D4- 1D2E0z",
  "1D2F4- 1D300m 1D357- 1D360o 1D372z 1D379- 1D400k 1D455- 1D456k 1D49D- 1D49Ek 1D4A0-",
  "1D4A2k 1D4A3- 1D4A5k 1D4A7- 1D4A9k 1D4AD- 1D4AEk 1D4BA- 1D4BBk 1D4BC- 1D4BDk 1D4C1m",
  "1D4C2k 1D4C4- 1D4C5k 1D506- 1D507k 1D50B- 1D50Dk 1D515- 1D516k 1D51D- 1D51Ek 1D53A-",
  "1D53Bk 1D53F- 1D540k 1D545- 1D546k 1D547- 1D54Ak 1D551- 1D552k 1D6A4n 1D6A6- 1D6A8k",
  "1D7CAo 1D7CC- 1D7CEk 1D800w 1DA8C- 1DA9Bw 1DAA0- 1DAA1w 1DAB0- 1DF00J 1DF1F- 1DF25K",
  "1DF2B- 1E000x 1E007- 1E008x 1E019- 1E01Bx 1E022- 1E023x 1E025- 1E026x 1E02B- 1E030K",
  "1E06E- 1E08FK 1E090- 1E100G 1E12D- 1E130G 1E13E- 1E140G 1E14A- 1E14EG 1E150- 1E290J",
  "1E2AF- 1E2C0G 1E2FA- 1E2FFG 1E300- 1E4D0K 1E4FA- 1E5D0M 1E5FB- 1E5FFM 1E600- 1E7E0J",
  "1E7E7- 1E7E8J 1E7EC- 1E7EDJ 1E7EF- 1E7F0J 1E7FF- 1E800v 1E8C5- 1E8C7v 1E8D7- 1E900x",
  "1E94BG 1E94C- 1E950x 1E95A- 1E95Ex 1E960- 1EC71z 1ECB5- 1ED01G 1ED3E- 1EE00s 1EE04-",
  "1EE05s 1EE20- 1EE21s 1EE23- 1EE24s 1EE25- 1EE27s 1EE28- 1EE29s 1EE33- 1EE34s 1EE38-",
  "1EE39s 1EE3A- 1EE3Bs 1EE3C- 1EE42s 1EE43- 1EE47s 1EE48- 1EE49s 1EE4A- 1EE4Bs 1EE4C-",
  "1EE4Ds 1EE50- 1EE51s 1EE53- 1EE54s 1EE55- 1EE57s 1EE58- 1EE59s 1EE5A- 1EE5Bs 1EE5C-",
  "1EE5Ds 1EE5E- 1EE5Fs 1EE60- 1EE61s 1EE63- 1EE64s 1EE65- 1EE67s 1EE6B- 1EE6Cs 1EE73-",
  "1EE74s 1EE78- 1EE79s 1EE7D- 1EE7Es 1EE7F- 1EE80s 1EE8A- 1EE8Bs 1EE9C- 1EEA1s 1EEA4-",
  "1EEA5s 1EEAA- 1EEABs 1EEBC- 1EEF0s 1EEF2- 1F000p 1F02C- 1F030p 1F094- 1F0A0r 1F0AF-",
  "1F0B1r 1F0BFv 1F0C0- 1F0C1r 1F0D0- 1F0D1r 1F0E0v 1F0F6- 1F100q 1F10Bv 1F10DI 1F110q",
  "1F12Fz 1F130r 1F131q 1F132r 1F13Dq 1F13Er 1F13Fq 1F140r 1F142q 1F143r 1F146q 1F147r",
  "1F14Aq 1F14Fr 1F157q 1F158r 1F15Fq 1F160r 1F16As 1F16CG 1F16DI 1F170r 1F179q 1F17Ar",
  "1F17Bq 1F17Dr 1F17Fq 1F180r 1F18Aq 1F18Er 1F190q 1F191r 1F19Bx 1F1ADI 1F1AE- 1F1E6r",
  "1F200q 1F201r 1F203- 1F210q 1F232r 1F23Bx 1F23C- 1F240q 1F249- 1F250r 1F252- 1F260y",
  "1F266- 1F300r 1F321v 1F32Dw 1F330r 1F336v 1F337r 1F37Dv 1F37Ew 1F380r 1F394v 1F3A0r",
  "1F3C5v 1F3C6r 1F3CBv 1F3CFw 1F3D4v 1F3E0r 1F3F1v 1F3F8w 1F400r 1F43Fv 1F440r 1F441v",
  "1F442r 1F4F8v 1F4F9r 1F4FDv 1F4FFw 1F500r 1F53Ev 1F540s 1F544v 1F54Bw 1F550r 1F568v",
  "1F57Ax 1F57Bv 1F5A4x 1F5A5v 1F5FBr 1F600s 1F601r 1F611s 1F612r 1F615s 1F616r 1F617s",
  "1F618r 1F619s 1F61Ar 1F61Bs 1F61Cr 1F61Fs 1F620r 1F626s 1F628r 1F62Cs 1F62Dr 1F62Es",
  "1F630r 1F634s 1F635r 1F641v 1F643w 1F645r 1F650v 1F680r 1F6C6v 1F6D0w 1F6D1x 1F6D3y",
  "1F6D5G 1F6D6I 1F6D8- 1F6DCK 1F6DDJ 1F6E0v 1F6ED- 1F6F0v 1F6F4x 1F6F7y 1F6F9z 1F6FAG",
  "1F6FBI 1F6FD- 1F700r 1F774K 1F777- 1F77BK 1F780v 1F7D5z 1F7D9K 1F7DA- 1F7E0G 1F7EC-",
  "1F7F0J 1F7F1- 1F800v 1F80C- 1F810v 1F848- 1F850v 1F85A- 1F860v 1F888- 1F890v 1F8AE-",
  "1F8B0I 1F8B2M 1F8BC- 1F8C0M 1F8C2- 1F900y 1F90CI 1F90DG 1F910w 1F919x 1F91Fy 1F920x",
  "1F928y 1F930x 1F931y 1F933x 1F93FG 1F940x 1F94Cy 1F94Dz 1F950x 1F95Fy 1F96Cz 1F971G",
  "1F972I 1F973z 1F977I 1F979J 1F97Az 1F97BG 1F97Cz 1F980w 1F985x 1F992y 1F998z 1F9A3I",
  "1F9A5G 1F9ABI 1F9AEG 1F9B0z 1F9BAG 1F9C0w 1F9C1z 1F9C3G 1F9CBI 1F9CCJ 1F9CDG 1F9D0y",
  "1F9E7z 1FA00G 1FA54- 1FA60z 1FA6E- 1FA70G 1FA74I 1FA75K 1FA78G 1FA7BJ 1FA7D- 1FA80G",
  "1FA83I 1FA87K 1FA89M 1FA8A- 1FA8FM 1FA90G 1FA96I 1FAA9J 1FAADK 1FAB0I 1FAB7J 1FABBK",
  "1FABEM 1FABFK 1FAC0I 1FAC3J 1FAC6M 1FAC7- 1FACEK 1FAD0I 1FAD7J 1FADAK 1FADCM 1FADD-",
  "1FADFM 1FAE0J 1FAE8K 1FAE9M 1FAEA- 1FAF0J 1FAF7K 1FAF9- 1FB00I 1FB93- 1FB94I 1FBCBM",
  "1FBF0I 1FBFA- 1FFFEh 20000k 2A6D7I 2A6DEJ 2A6E0- 2A700q 2B735J 2B739K 2B73A- 2B740r",
  "2B81E- 2B820w 2CEA2- 2CEB0y 2EBE1- 2EBF0L 2EE5E- 2F800k 2FA1E- 2FFFEh 30000I 3134B-",
  "31350K 323B0- 3FFFEh 40000- 4FFFEh 50000- 5FFFEh 60000- 6FFFEh 70000- 7FFFEh 80000-",
  "8FFFEh 90000- 9FFFEh A0000- AFFFEh B0000- BFFFEh C0000- CFFFEh D0000- DFFFEh E0000-",
  "E0001k E0002- E0020k E0080- E0100m E01F0- EFFFEh"]

def table : List (Nat × Text) := CharSet.readRuns 1 runs

def chars (version : String) : CharSet :=
  let earlier := versions.takeWhile fun (v, _) => v != version
  CharSet.ofTable table ((earlier ++ versions.filter fun (v, _) => v == version).map (·.2))

end Reroute.Unicode.Age
