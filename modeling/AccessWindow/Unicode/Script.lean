import AccessWindow.Unicode.Intervals

namespace AccessWindow.Unicode.Script

/-- Each entry gives the first code point of a run, in hexadecimal, and the short name of its
script. -/
def table : List String := [
  "0Zyyy41Latn5bZyyy61Latn7bZyyyaaLatnabZyyybaLatnbbZyyyc0Latnd7Zyyyd8Latnf7Zyyyf8Latn2b9Zyyy",
  "2e0Latn2e5Zyyy2eaBopo2ecZyyy300Zinh370Grek374Zyyy375Grek378Zzzz37aGrek37eZyyy37fGrek380Zzzz",
  "384Grek385Zyyy386Grek387Zyyy388Grek38bZzzz38cGrek38dZzzz38eGrek3a2Zzzz3a3Grek3e2Copt3f0Grek",
  "400Cyrl485Zinh487Cyrl530Zzzz531Armn557Zzzz559Armn58bZzzz58dArmn590Zzzz591Hebr5c8Zzzz5d0Hebr",
  "5ebZzzz5efHebr5f5Zzzz600Arab605Zyyy606Arab60cZyyy60dArab61bZyyy61cArab61fZyyy620Arab640Zyyy",
  "641Arab64bZinh656Arab670Zinh671Arab6ddZyyy6deArab700Syrc70eZzzz70fSyrc74bZzzz74dSyrc750Arab",
  "780Thaa7b2Zzzz7c0Nkoo7fbZzzz7fdNkoo800Samr82eZzzz830Samr83fZzzz840Mand85cZzzz85eMand85fZzzz",
  "860Syrc86bZzzz870Arab892Zzzz897Arab8e2Zyyy8e3Arab900Deva951Zinh955Deva964Zyyy966Deva980Beng",
  "984Zzzz985Beng98dZzzz98fBeng991Zzzz993Beng9a9Zzzz9aaBeng9b1Zzzz9b2Beng9b3Zzzz9b6Beng9baZzzz",
  "9bcBeng9c5Zzzz9c7Beng9c9Zzzz9cbBeng9cfZzzz9d7Beng9d8Zzzz9dcBeng9deZzzz9dfBeng9e4Zzzz9e6Beng",
  "9ffZzzza01Gurua04Zzzza05Gurua0bZzzza0fGurua11Zzzza13Gurua29Zzzza2aGurua31Zzzza32Gurua34Zzzz",
  "a35Gurua37Zzzza38Gurua3aZzzza3cGurua3dZzzza3eGurua43Zzzza47Gurua49Zzzza4bGurua4eZzzza51Guru",
  "a52Zzzza59Gurua5dZzzza5eGurua5fZzzza66Gurua77Zzzza81Gujra84Zzzza85Gujra8eZzzza8fGujra92Zzzz",
  "a93Gujraa9ZzzzaaaGujrab1Zzzzab2Gujrab4Zzzzab5GujrabaZzzzabcGujrac6Zzzzac7GujracaZzzzacbGujr",
  "aceZzzzad0Gujrad1Zzzzae0Gujrae4Zzzzae6Gujraf2Zzzzaf9Gujrb00Zzzzb01Oryab04Zzzzb05Oryab0dZzzz",
  "b0fOryab11Zzzzb13Oryab29Zzzzb2aOryab31Zzzzb32Oryab34Zzzzb35Oryab3aZzzzb3cOryab45Zzzzb47Orya",
  "b49Zzzzb4bOryab4eZzzzb55Oryab58Zzzzb5cOryab5eZzzzb5fOryab64Zzzzb66Oryab78Zzzzb82Tamlb84Zzzz",
  "b85Tamlb8bZzzzb8eTamlb91Zzzzb92Tamlb96Zzzzb99Tamlb9bZzzzb9cTamlb9dZzzzb9eTamlba0Zzzzba3Taml",
  "ba5Zzzzba8TamlbabZzzzbaeTamlbbaZzzzbbeTamlbc3Zzzzbc6Tamlbc9ZzzzbcaTamlbceZzzzbd0Tamlbd1Zzzz",
  "bd7Tamlbd8Zzzzbe6TamlbfbZzzzc00Teluc0dZzzzc0eTeluc11Zzzzc12Teluc29Zzzzc2aTeluc3aZzzzc3cTelu",
  "c45Zzzzc46Teluc49Zzzzc4aTeluc4eZzzzc55Teluc57Zzzzc58Teluc5bZzzzc5cTeluc5eZzzzc60Teluc64Zzzz",
  "c66Teluc70Zzzzc77Teluc80Kndac8dZzzzc8eKndac91Zzzzc92Kndaca9ZzzzcaaKndacb4Zzzzcb5KndacbaZzzz",
  "cbcKndacc5Zzzzcc6Kndacc9ZzzzccaKndacceZzzzcd5Kndacd7ZzzzcdcKndacdfZzzzce0Kndace4Zzzzce6Knda",
  "cf0Zzzzcf1Kndacf4Zzzzd00Mlymd0dZzzzd0eMlymd11Zzzzd12Mlymd45Zzzzd46Mlymd49Zzzzd4aMlymd50Zzzz",
  "d54Mlymd64Zzzzd66Mlymd80Zzzzd81Sinhd84Zzzzd85Sinhd97Zzzzd9aSinhdb2Zzzzdb3SinhdbcZzzzdbdSinh",
  "dbeZzzzdc0Sinhdc7ZzzzdcaSinhdcbZzzzdcfSinhdd5Zzzzdd6Sinhdd7Zzzzdd8Sinhde0Zzzzde6Sinhdf0Zzzz",
  "df2Sinhdf5Zzzze01Thaie3bZzzze3fZyyye40Thaie5cZzzze81Laooe83Zzzze84Laooe85Zzzze86Laooe8bZzzz",
  "e8cLaooea4Zzzzea5Laooea6Zzzzea7LaooebeZzzzec0Laooec5Zzzzec6Laooec7Zzzzec8LaooecfZzzzed0Laoo",
  "edaZzzzedcLaooee0Zzzzf00Tibtf48Zzzzf49Tibtf6dZzzzf71Tibtf98Zzzzf99TibtfbdZzzzfbeTibtfcdZzzz",
  "fceTibtfd5Zyyyfd9TibtfdbZzzz1000Mymr10a0Geor10c6Zzzz10c7Geor10c8Zzzz10cdGeor10ceZzzz10d0Geor",
  "10fbZyyy10fcGeor1100Hang1200Ethi1249Zzzz124aEthi124eZzzz1250Ethi1257Zzzz1258Ethi1259Zzzz",
  "125aEthi125eZzzz1260Ethi1289Zzzz128aEthi128eZzzz1290Ethi12b1Zzzz12b2Ethi12b6Zzzz12b8Ethi",
  "12bfZzzz12c0Ethi12c1Zzzz12c2Ethi12c6Zzzz12c8Ethi12d7Zzzz12d8Ethi1311Zzzz1312Ethi1316Zzzz",
  "1318Ethi135bZzzz135dEthi137dZzzz1380Ethi139aZzzz13a0Cher13f6Zzzz13f8Cher13feZzzz1400Cans",
  "1680Ogam169dZzzz16a0Runr16ebZyyy16eeRunr16f9Zzzz1700Tglg1716Zzzz171fTglg1720Hano1735Zyyy",
  "1737Zzzz1740Buhd1754Zzzz1760Tagb176dZzzz176eTagb1771Zzzz1772Tagb1774Zzzz1780Khmr17deZzzz",
  "17e0Khmr17eaZzzz17f0Khmr17faZzzz1800Mong1802Zyyy1804Mong1805Zyyy1806Mong181aZzzz1820Mong",
  "1879Zzzz1880Mong18abZzzz18b0Cans18f6Zzzz1900Limb191fZzzz1920Limb192cZzzz1930Limb193cZzzz",
  "1940Limb1941Zzzz1944Limb1950Tale196eZzzz1970Tale1975Zzzz1980Talu19acZzzz19b0Talu19caZzzz",
  "19d0Talu19dbZzzz19deTalu19e0Khmr1a00Bugi1a1cZzzz1a1eBugi1a20Lana1a5fZzzz1a60Lana1a7dZzzz",
  "1a7fLana1a8aZzzz1a90Lana1a9aZzzz1aa0Lana1aaeZzzz1ab0Zinh1adeZzzz1ae0Zinh1aecZzzz1b00Bali",
  "1b4dZzzz1b4eBali1b80Sund1bc0Batk1bf4Zzzz1bfcBatk1c00Lepc1c38Zzzz1c3bLepc1c4aZzzz1c4dLepc",
  "1c50Olck1c80Cyrl1c8bZzzz1c90Geor1cbbZzzz1cbdGeor1cc0Sund1cc8Zzzz1cd0Zinh1cd3Zyyy1cd4Zinh",
  "1ce1Zyyy1ce2Zinh1ce9Zyyy1cedZinh1ceeZyyy1cf4Zinh1cf5Zyyy1cf8Zinh1cfaZyyy1cfbZzzz1d00Latn",
  "1d26Grek1d2bCyrl1d2cLatn1d5dGrek1d62Latn1d66Grek1d6bLatn1d78Cyrl1d79Latn1dbfGrek1dc0Zinh",
  "1e00Latn1f00Grek1f16Zzzz1f18Grek1f1eZzzz1f20Grek1f46Zzzz1f48Grek1f4eZzzz1f50Grek1f58Zzzz",
  "1f59Grek1f5aZzzz1f5bGrek1f5cZzzz1f5dGrek1f5eZzzz1f5fGrek1f7eZzzz1f80Grek1fb5Zzzz1fb6Grek",
  "1fc5Zzzz1fc6Grek1fd4Zzzz1fd6Grek1fdcZzzz1fddGrek1ff0Zzzz1ff2Grek1ff5Zzzz1ff6Grek1fffZzzz",
  "2000Zyyy200cZinh200eZyyy2065Zzzz2066Zyyy2071Latn2072Zzzz2074Zyyy207fLatn2080Zyyy208fZzzz",
  "2090Latn209dZzzz20a0Zyyy20c2Zzzz20d0Zinh20f1Zzzz2100Zyyy2126Grek2127Zyyy212aLatn212cZyyy",
  "2132Latn2133Zyyy214eLatn214fZyyy2160Latn2189Zyyy218cZzzz2190Zyyy242aZzzz2440Zyyy244bZzzz",
  "2460Zyyy2800Brai2900Zyyy2b74Zzzz2b76Zyyy2c00Glag2c60Latn2c80Copt2cf4Zzzz2cf9Copt2d00Geor",
  "2d26Zzzz2d27Geor2d28Zzzz2d2dGeor2d2eZzzz2d30Tfng2d68Zzzz2d6fTfng2d71Zzzz2d7fTfng2d80Ethi",
  "2d97Zzzz2da0Ethi2da7Zzzz2da8Ethi2dafZzzz2db0Ethi2db7Zzzz2db8Ethi2dbfZzzz2dc0Ethi2dc7Zzzz",
  "2dc8Ethi2dcfZzzz2dd0Ethi2dd7Zzzz2dd8Ethi2ddfZzzz2de0Cyrl2e00Zyyy2e5eZzzz2e80Hani2e9aZzzz",
  "2e9bHani2ef4Zzzz2f00Hani2fd6Zzzz2ff0Zyyy3005Hani3006Zyyy3007Hani3008Zyyy3021Hani302aZinh",
  "302eHang3030Zyyy3038Hani303cZyyy3040Zzzz3041Hira3097Zzzz3099Zinh309bZyyy309dHira30a0Zyyy",
  "30a1Kana30fbZyyy30fdKana3100Zzzz3105Bopo3130Zzzz3131Hang318fZzzz3190Zyyy31a0Bopo31c0Zyyy",
  "31e6Zzzz31efZyyy31f0Kana3200Hang321fZzzz3220Zyyy3260Hang327fZyyy32d0Kana32ffZyyy3300Kana",
  "3358Zyyy3400Hani4dc0Zyyy4e00Hania000Yiiia48dZzzza490Yiiia4c7Zzzza4d0Lisua500Vaiia62cZzzz",
  "a640Cyrla6a0Bamua6f8Zzzza700Zyyya722Latna788Zyyya78bLatna7ddZzzza7f1Latna800Syloa82dZzzz",
  "a830Zyyya83aZzzza840Phaga878Zzzza880Saura8c6Zzzza8ceSaura8daZzzza8e0Devaa900Kalia92eZyyy",
  "a92fKalia930Rjnga954Zzzza95fRjnga960Hanga97dZzzza980Javaa9ceZzzza9cfZyyya9d0Javaa9daZzzz",
  "a9deJavaa9e0Mymra9ffZzzzaa00Chamaa37Zzzzaa40Chamaa4eZzzzaa50Chamaa5aZzzzaa5cChamaa60Mymr",
  "aa80Tavtaac3ZzzzaadbTavtaae0Mteiaaf7Zzzzab01Ethiab07Zzzzab09Ethiab0fZzzzab11Ethiab17Zzzz",
  "ab20Ethiab27Zzzzab28Ethiab2fZzzzab30Latnab5bZyyyab5cLatnab65Grekab66Latnab6aZyyyab6cZzzz",
  "ab70Cherabc0MteiabeeZzzzabf0MteiabfaZzzzac00Hangd7a4Zzzzd7b0Hangd7c7Zzzzd7cbHangd7fcZzzz",
  "f900Hanifa6eZzzzfa70HanifadaZzzzfb00Latnfb07Zzzzfb13Armnfb18Zzzzfb1dHebrfb37Zzzzfb38Hebr",
  "fb3dZzzzfb3eHebrfb3fZzzzfb40Hebrfb42Zzzzfb43Hebrfb45Zzzzfb46Hebrfb50Arabfd3eZyyyfd40Arab",
  "fdd0Zzzzfdf0Arabfe00Zinhfe10Zyyyfe1aZzzzfe20Zinhfe2eCyrlfe30Zyyyfe53Zzzzfe54Zyyyfe67Zzzz",
  "fe68Zyyyfe6cZzzzfe70Arabfe75Zzzzfe76ArabfefdZzzzfeffZyyyff00Zzzzff01Zyyyff21Latnff3bZyyy",
  "ff41Latnff5bZyyyff66Kanaff70Zyyyff71Kanaff9eZyyyffa0HangffbfZzzzffc2Hangffc8ZzzzffcaHang",
  "ffd0Zzzzffd2Hangffd8ZzzzffdaHangffddZzzzffe0Zyyyffe7Zzzzffe8ZyyyffefZzzzfff9ZyyyfffeZzzz",
  "10000Linb1000cZzzz1000dLinb10027Zzzz10028Linb1003bZzzz1003cLinb1003eZzzz1003fLinb1004eZzzz",
  "10050Linb1005eZzzz10080Linb100fbZzzz10100Zyyy10103Zzzz10107Zyyy10134Zzzz10137Zyyy10140Grek",
  "1018fZzzz10190Zyyy1019dZzzz101a0Grek101a1Zzzz101d0Zyyy101fdZinh101feZzzz10280Lyci1029dZzzz",
  "102a0Cari102d1Zzzz102e0Zinh102e1Zyyy102fcZzzz10300Ital10324Zzzz1032dItal10330Goth1034bZzzz",
  "10350Perm1037bZzzz10380Ugar1039eZzzz1039fUgar103a0Xpeo103c4Zzzz103c8Xpeo103d6Zzzz10400Dsrt",
  "10450Shaw10480Osma1049eZzzz104a0Osma104aaZzzz104b0Osge104d4Zzzz104d8Osge104fcZzzz10500Elba",
  "10528Zzzz10530Aghb10564Zzzz1056fAghb10570Vith1057bZzzz1057cVith1058bZzzz1058cVith10593Zzzz",
  "10594Vith10596Zzzz10597Vith105a2Zzzz105a3Vith105b2Zzzz105b3Vith105baZzzz105bbVith105bdZzzz",
  "105c0Todr105f4Zzzz10600Lina10737Zzzz10740Lina10756Zzzz10760Lina10768Zzzz10780Latn10786Zzzz",
  "10787Latn107b1Zzzz107b2Latn107bbZzzz10800Cprt10806Zzzz10808Cprt10809Zzzz1080aCprt10836Zzzz",
  "10837Cprt10839Zzzz1083cCprt1083dZzzz1083fCprt10840Armi10856Zzzz10857Armi10860Palm10880Nbat",
  "1089fZzzz108a7Nbat108b0Zzzz108e0Hatr108f3Zzzz108f4Hatr108f6Zzzz108fbHatr10900Phnx1091cZzzz",
  "1091fPhnx10920Lydi1093aZzzz1093fLydi10940Zzzz1095aZzzz10980Mero109a0Merc109b8Zzzz109bcMerc",
  "109d0Zzzz109d2Merc10a00Khar10a04Zzzz10a05Khar10a07Zzzz10a0cKhar10a14Zzzz10a15Khar10a18Zzzz",
  "10a19Khar10a36Zzzz10a38Khar10a3bZzzz10a3fKhar10a49Zzzz10a50Khar10a59Zzzz10a60Sarb10a80Narb",
  "10aa0Zzzz10ac0Mani10ae7Zzzz10aebMani10af7Zzzz10b00Avst10b36Zzzz10b39Avst10b40Prti10b56Zzzz",
  "10b58Prti10b60Phli10b73Zzzz10b78Phli10b80Phlp10b92Zzzz10b99Phlp10b9dZzzz10ba9Phlp10bb0Zzzz",
  "10c00Orkh10c49Zzzz10c80Hung10cb3Zzzz10cc0Hung10cf3Zzzz10cfaHung10d00Rohg10d28Zzzz10d30Rohg",
  "10d3aZzzz10d40Gara10d66Zzzz10d69Gara10d86Zzzz10d8eGara10d90Zzzz10e60Arab10e7fZzzz10e80Yezi",
  "10eaaZzzz10eabYezi10eaeZzzz10eb0Yezi10eb2Zzzz10ec2Arab10ec8Zzzz10ed0Arab10ed9Zzzz10efaArab",
  "10f00Sogo10f28Zzzz10f30Sogd10f5aZzzz10f70Ougr10f8aZzzz10fb0Chrs10fccZzzz10fe0Elym10ff7Zzzz",
  "11000Brah1104eZzzz11052Brah11076Zzzz1107fBrah11080Kthi110c3Zzzz110cdKthi110ceZzzz110d0Sora",
  "110e9Zzzz110f0Sora110faZzzz11100Cakm11135Zzzz11136Cakm11148Zzzz11150Mahj11177Zzzz11180Shrd",
  "111e0Zzzz111e1Sinh111f5Zzzz11200Khoj11212Zzzz11213Khoj11242Zzzz11280Mult11287Zzzz11288Mult",
  "11289Zzzz1128aMult1128eZzzz1128fMult1129eZzzz1129fMult112aaZzzz112b0Sind112ebZzzz112f0Sind",
  "112faZzzz11300Gran11304Zzzz11305Gran1130dZzzz1130fGran11311Zzzz11313Gran11329Zzzz1132aGran",
  "11331Zzzz11332Gran11334Zzzz11335Gran1133aZzzz1133bZinh1133cGran11345Zzzz11347Gran11349Zzzz",
  "1134bGran1134eZzzz11350Gran11351Zzzz11357Gran11358Zzzz1135dGran11364Zzzz11366Gran1136dZzzz",
  "11370Gran11375Zzzz11380Tutg1138aZzzz1138bTutg1138cZzzz1138eTutg1138fZzzz11390Tutg113b6Zzzz",
  "113b7Tutg113c1Zzzz113c2Tutg113c3Zzzz113c5Tutg113c6Zzzz113c7Tutg113cbZzzz113ccTutg113d6Zzzz",
  "113d7Tutg113d9Zzzz113e1Tutg113e3Zzzz11400Newa1145cZzzz1145dNewa11462Zzzz11480Tirh114c8Zzzz",
  "114d0Tirh114daZzzz11580Sidd115b6Zzzz115b8Sidd115deZzzz11600Modi11645Zzzz11650Modi1165aZzzz",
  "11660Mong1166dZzzz11680Takr116baZzzz116c0Takr116caZzzz116d0Mymr116e4Zzzz11700Ahom1171bZzzz",
  "1171dAhom1172cZzzz11730Ahom11747Zzzz11800Dogr1183cZzzz118a0Wara118f3Zzzz118ffWara11900Diak",
  "11907Zzzz11909Diak1190aZzzz1190cDiak11914Zzzz11915Diak11917Zzzz11918Diak11936Zzzz11937Diak",
  "11939Zzzz1193bDiak11947Zzzz11950Diak1195aZzzz119a0Nand119a8Zzzz119aaNand119d8Zzzz119daNand",
  "119e5Zzzz11a00Zanb11a48Zzzz11a50Soyo11aa3Zzzz11ab0Cans11ac0Pauc11af9Zzzz11b00Deva11b0aZzzz",
  "11b60Shrd11b68Zzzz11bc0Sunu11be2Zzzz11bf0Sunu11bfaZzzz11c00Bhks11c09Zzzz11c0aBhks11c37Zzzz",
  "11c38Bhks11c46Zzzz11c50Bhks11c6dZzzz11c70Marc11c90Zzzz11c92Marc11ca8Zzzz11ca9Marc11cb7Zzzz",
  "11d00Gonm11d07Zzzz11d08Gonm11d0aZzzz11d0bGonm11d37Zzzz11d3aGonm11d3bZzzz11d3cGonm11d3eZzzz",
  "11d3fGonm11d48Zzzz11d50Gonm11d5aZzzz11d60Gong11d66Zzzz11d67Gong11d69Zzzz11d6aGong11d8fZzzz",
  "11d90Gong11d92Zzzz11d93Gong11d99Zzzz11da0Gong11daaZzzz11db0Zzzz11ddcZzzz11de0Zzzz11deaZzzz",
  "11ee0Maka11ef9Zzzz11f00Kawi11f11Zzzz11f12Kawi11f3bZzzz11f3eKawi11f5bZzzz11fb0Lisu11fb1Zzzz",
  "11fc0Taml11ff2Zzzz11fffTaml12000Xsux1239aZzzz12400Xsux1246fZzzz12470Xsux12475Zzzz12480Xsux",
  "12544Zzzz12f90Cpmn12ff3Zzzz13000Egyp13456Zzzz13460Egyp143fbZzzz14400Hluw14647Zzzz16100Gukh",
  "1613aZzzz16800Bamu16a39Zzzz16a40Mroo16a5fZzzz16a60Mroo16a6aZzzz16a6eMroo16a70Tnsa16abfZzzz",
  "16ac0Tnsa16acaZzzz16ad0Bass16aeeZzzz16af0Bass16af6Zzzz16b00Hmng16b46Zzzz16b50Hmng16b5aZzzz",
  "16b5bHmng16b62Zzzz16b63Hmng16b78Zzzz16b7dHmng16b90Zzzz16d40Krai16d7aZzzz16e40Medf16e9bZzzz",
  "16ea0Zzzz16eb9Zzzz16ebbZzzz16ed4Zzzz16f00Plrd16f4bZzzz16f4fPlrd16f88Zzzz16f8fPlrd16fa0Zzzz",
  "16fe0Tang16fe1Nshu16fe2Hani16fe4Kits16fe5Zzzz16ff0Hani16ff7Zzzz17000Tang18b00Kits18cd6Zzzz",
  "18cffKits18d00Tang18d1fZzzz18d80Tang18df3Zzzz1aff0Kana1aff4Zzzz1aff5Kana1affcZzzz1affdKana",
  "1afffZzzz1b000Kana1b001Hira1b120Kana1b123Zzzz1b132Hira1b133Zzzz1b150Hira1b153Zzzz1b155Kana",
  "1b156Zzzz1b164Kana1b168Zzzz1b170Nshu1b2fcZzzz1bc00Dupl1bc6bZzzz1bc70Dupl1bc7dZzzz1bc80Dupl",
  "1bc89Zzzz1bc90Dupl1bc9aZzzz1bc9cDupl1bca0Zyyy1bca4Zzzz1cc00Zyyy1ccfdZzzz1cd00Zyyy1ceb4Zzzz",
  "1cebaZyyy1ced1Zzzz1cee0Zyyy1cef1Zzzz1cf00Zinh1cf2eZzzz1cf30Zinh1cf47Zzzz1cf50Zyyy1cfc4Zzzz",
  "1d000Zyyy1d0f6Zzzz1d100Zyyy1d127Zzzz1d129Zyyy1d167Zinh1d16aZyyy1d17bZinh1d183Zyyy1d185Zinh",
  "1d18cZyyy1d1aaZinh1d1aeZyyy1d1ebZzzz1d200Grek1d246Zzzz1d2c0Zyyy1d2d4Zzzz1d2e0Zyyy1d2f4Zzzz",
  "1d300Zyyy1d357Zzzz1d360Zyyy1d379Zzzz1d400Zyyy1d455Zzzz1d456Zyyy1d49dZzzz1d49eZyyy1d4a0Zzzz",
  "1d4a2Zyyy1d4a3Zzzz1d4a5Zyyy1d4a7Zzzz1d4a9Zyyy1d4adZzzz1d4aeZyyy1d4baZzzz1d4bbZyyy1d4bcZzzz",
  "1d4bdZyyy1d4c4Zzzz1d4c5Zyyy1d506Zzzz1d507Zyyy1d50bZzzz1d50dZyyy1d515Zzzz1d516Zyyy1d51dZzzz",
  "1d51eZyyy1d53aZzzz1d53bZyyy1d53fZzzz1d540Zyyy1d545Zzzz1d546Zyyy1d547Zzzz1d54aZyyy1d551Zzzz",
  "1d552Zyyy1d6a6Zzzz1d6a8Zyyy1d7ccZzzz1d7ceZyyy1d800Sgnw1da8cZzzz1da9bSgnw1daa0Zzzz1daa1Sgnw",
  "1dab0Zzzz1df00Latn1df1fZzzz1df25Latn1df2bZzzz1e000Glag1e007Zzzz1e008Glag1e019Zzzz1e01bGlag",
  "1e022Zzzz1e023Glag1e025Zzzz1e026Glag1e02bZzzz1e030Cyrl1e06eZzzz1e08fCyrl1e090Zzzz1e100Hmnp",
  "1e12dZzzz1e130Hmnp1e13eZzzz1e140Hmnp1e14aZzzz1e14eHmnp1e150Zzzz1e290Toto1e2afZzzz1e2c0Wcho",
  "1e2faZzzz1e2ffWcho1e300Zzzz1e4d0Nagm1e4faZzzz1e5d0Onao1e5fbZzzz1e5ffOnao1e600Zzzz1e6c0Zzzz",
  "1e6dfZzzz1e6e0Zzzz1e6f6Zzzz1e6feZzzz1e700Zzzz1e7e0Ethi1e7e7Zzzz1e7e8Ethi1e7ecZzzz1e7edEthi",
  "1e7efZzzz1e7f0Ethi1e7ffZzzz1e800Mend1e8c5Zzzz1e8c7Mend1e8d7Zzzz1e900Adlm1e94cZzzz1e950Adlm",
  "1e95aZzzz1e95eAdlm1e960Zzzz1ec71Zyyy1ecb5Zzzz1ed01Zyyy1ed3eZzzz1ee00Arab1ee04Zzzz1ee05Arab",
  "1ee20Zzzz1ee21Arab1ee23Zzzz1ee24Arab1ee25Zzzz1ee27Arab1ee28Zzzz1ee29Arab1ee33Zzzz1ee34Arab",
  "1ee38Zzzz1ee39Arab1ee3aZzzz1ee3bArab1ee3cZzzz1ee42Arab1ee43Zzzz1ee47Arab1ee48Zzzz1ee49Arab",
  "1ee4aZzzz1ee4bArab1ee4cZzzz1ee4dArab1ee50Zzzz1ee51Arab1ee53Zzzz1ee54Arab1ee55Zzzz1ee57Arab",
  "1ee58Zzzz1ee59Arab1ee5aZzzz1ee5bArab1ee5cZzzz1ee5dArab1ee5eZzzz1ee5fArab1ee60Zzzz1ee61Arab",
  "1ee63Zzzz1ee64Arab1ee65Zzzz1ee67Arab1ee6bZzzz1ee6cArab1ee73Zzzz1ee74Arab1ee78Zzzz1ee79Arab",
  "1ee7dZzzz1ee7eArab1ee7fZzzz1ee80Arab1ee8aZzzz1ee8bArab1ee9cZzzz1eea1Arab1eea4Zzzz1eea5Arab",
  "1eeaaZzzz1eeabArab1eebcZzzz1eef0Arab1eef2Zzzz1f000Zyyy1f02cZzzz1f030Zyyy1f094Zzzz1f0a0Zyyy",
  "1f0afZzzz1f0b1Zyyy1f0c0Zzzz1f0c1Zyyy1f0d0Zzzz1f0d1Zyyy1f0f6Zzzz1f100Zyyy1f1aeZzzz1f1e6Zyyy",
  "1f200Hira1f201Zyyy1f203Zzzz1f210Zyyy1f23cZzzz1f240Zyyy1f249Zzzz1f250Zyyy1f252Zzzz1f260Zyyy",
  "1f266Zzzz1f300Zyyy1f6d9Zzzz1f6dcZyyy1f6edZzzz1f6f0Zyyy1f6fdZzzz1f700Zyyy1f7daZzzz1f7e0Zyyy",
  "1f7ecZzzz1f7f0Zyyy1f7f1Zzzz1f800Zyyy1f80cZzzz1f810Zyyy1f848Zzzz1f850Zyyy1f85aZzzz1f860Zyyy",
  "1f888Zzzz1f890Zyyy1f8aeZzzz1f8b0Zyyy1f8bcZzzz1f8c0Zyyy1f8c2Zzzz1f8d0Zyyy1f8d9Zzzz1f900Zyyy",
  "1fa58Zzzz1fa60Zyyy1fa6eZzzz1fa70Zyyy1fa7dZzzz1fa80Zyyy1fa8bZzzz1fa8eZyyy1fac7Zzzz1fac8Zyyy",
  "1fac9Zzzz1facdZyyy1faddZzzz1fadfZyyy1faebZzzz1faefZyyy1faf9Zzzz1fb00Zyyy1fb93Zzzz1fb94Zyyy",
  "1fbfbZzzz20000Hani2a6e0Zzzz2a700Hani2b81eZzzz2b820Hani2ceaeZzzz2ceb0Hani2ebe1Zzzz2ebf0Hani",
  "2ee5eZzzz2f800Hani2fa1eZzzz30000Hani3134bZzzz31350Hani3347aZzzze0001Zyyye0002Zzzze0020Zyyy",
  "e0080Zzzze0100Zinhe01f0Zzzz"]

def names : List String := [
  "Adlm adlam",
  "Ahom",
  "Hluw anatolianhieroglyphs",
  "Arab arabic",
  "Armn armenian",
  "Avst avestan",
  "Bali balinese",
  "Bamu bamum",
  "Bass bassavah",
  "Batk batak",
  "Beng bengali",
  "Bhks bhaiksuki",
  "Bopo bopomofo",
  "Brah brahmi",
  "Brai braille",
  "Bugi buginese",
  "Buhd buhid",
  "Cans canadianaboriginal",
  "Cari carian",
  "Aghb caucasianalbanian",
  "Cakm chakma",
  "Cham",
  "Cher cherokee",
  "Chrs chorasmian",
  "Zyyy common",
  "Copt coptic qaac",
  "Xsux cuneiform",
  "Cprt cypriot",
  "Cpmn cyprominoan",
  "Cyrl cyrillic",
  "Dsrt deseret",
  "Deva devanagari",
  "Diak divesakuru",
  "Dogr dogra",
  "Dupl duployan",
  "Egyp egyptianhieroglyphs",
  "Elba elbasan",
  "Elym elymaic",
  "Ethi ethiopic",
  "Gara garay",
  "Geor georgian",
  "Glag glagolitic",
  "Goth gothic",
  "Gran grantha",
  "Grek greek",
  "Gujr gujarati",
  "Gong gunjalagondi",
  "Guru gurmukhi",
  "Gukh gurungkhema",
  "Hani han",
  "Hang hangul",
  "Rohg hanifirohingya",
  "Hano hanunoo",
  "Hatr hatran",
  "Hebr hebrew",
  "Hira hiragana",
  "Armi imperialaramaic",
  "Zinh inherited qaai",
  "Phli inscriptionalpahlavi",
  "Prti inscriptionalparthian",
  "Java javanese",
  "Kthi kaithi",
  "Knda kannada",
  "Kana katakana",
  "Kawi",
  "Kali kayahli",
  "Khar kharoshthi",
  "Kits khitansmallscript",
  "Khmr khmer",
  "Khoj khojki",
  "Sind khudawadi",
  "Krai kiratrai",
  "Laoo lao",
  "Latn latin",
  "Lepc lepcha",
  "Limb limbu",
  "Lina lineara",
  "Linb linearb",
  "Lisu",
  "Lyci lycian",
  "Lydi lydian",
  "Mahj mahajani",
  "Maka makasar",
  "Mlym malayalam",
  "Mand mandaic",
  "Mani manichaean",
  "Marc marchen",
  "Gonm masaramgondi",
  "Medf medefaidrin",
  "Mtei meeteimayek",
  "Mend mendekikakui",
  "Merc meroiticcursive",
  "Mero meroitichieroglyphs",
  "Plrd miao",
  "Modi",
  "Mong mongolian",
  "Mroo mro",
  "Mult multani",
  "Mymr myanmar",
  "Nbat nabataean",
  "Nagm nagmundari",
  "Nand nandinagari",
  "Talu newtailue",
  "Newa",
  "Nkoo nko",
  "Nshu nushu",
  "Hmnp nyiakengpuachuehmong",
  "Ogam ogham",
  "Olck olchiki",
  "Onao olonal",
  "Hung oldhungarian",
  "Ital olditalic",
  "Narb oldnortharabian",
  "Perm oldpermic",
  "Xpeo oldpersian",
  "Sogo oldsogdian",
  "Sarb oldsoutharabian",
  "Orkh oldturkic",
  "Ougr olduyghur",
  "Orya oriya",
  "Osge osage",
  "Osma osmanya",
  "Hmng pahawhhmong",
  "Palm palmyrene",
  "Pauc paucinhau",
  "Phag phagspa",
  "Phnx phoenician",
  "Phlp psalterpahlavi",
  "Rjng rejang",
  "Runr runic",
  "Samr samaritan",
  "Saur saurashtra",
  "Shrd sharada",
  "Shaw shavian",
  "Sidd siddham",
  "Sgnw signwriting",
  "Sinh sinhala",
  "Sogd sogdian",
  "Sora sorasompeng",
  "Soyo soyombo",
  "Sund sundanese",
  "Sunu sunuwar",
  "Sylo sylotinagri",
  "Syrc syriac",
  "Tglg tagalog",
  "Tagb tagbanwa",
  "Tale taile",
  "Lana taitham",
  "Tavt taiviet",
  "Takr takri",
  "Taml tamil",
  "Tnsa tangsa",
  "Tang tangut",
  "Telu telugu",
  "Thaa thaana",
  "Thai",
  "Tibt tibetan",
  "Tfng tifinagh",
  "Tirh tirhuta",
  "Todr todhri",
  "Toto",
  "Tutg tulutigalari",
  "Ugar ugaritic",
  "Zzzz unknown",
  "Vaii vai",
  "Vith vithkuqi",
  "Wcho wancho",
  "Wara warangciti",
  "Yezi yezidi",
  "Yiii yi",
  "Zanb zanabazarsquare"]

def runs : List (Nat × String) := runsOfText 4 (String.join table)

def named? (name : String) : Option Intervals :=
  names.findSome? fun line =>
    match (Intervals.words line).map String.ofList with
    | short :: others =>
      if String.ofList (short.toList.map Char.toLower) = name ∨ name ∈ others then
        some (Intervals.normal (labelled (fun l => l = short) runs))
      else none
    | [] => none

end AccessWindow.Unicode.Script
