/-!
# Runs of scripts
-/

namespace RuleRegex.Unicode.Data

/-- Runs of code points of one script: how far a run starts from the one before, in hexadecimal, the
four-letter code of the script, and the codes of the script extensions if there are others. -/
def scriptRuns : String :=
  "0Zyyy 41Latn 1aZyyy 6Latn 1aZyyy 2fLatn 1Zyyy fLatn 1Zyyy 5Latn 17Zyyy 1Latn 1fZyyy 1Latn
  1c1Zyyy 27Latn 5Zyyy 5Bopo 2Zyyy 14Zinh 42ZinhGrek 1Zinh 2ZinhGrek 1Zinh 1dZinhLatn dGrek
  4Zyyy 1Grek 3Zzzz 2Grek 4Zyyy 1Grek 1Zzzz 4Grek 1Zyyy 1Grek 1Zyyy 1Grek 3Zzzz 1Grek 1Zzzz
  1Grek 14Zzzz 1Grek 3fCopt eGrek 10Cyrl 83CyrlCyrlPerm 1CyrlCyrlGlag 1ZinhCyrlLatn
  2CyrlCyrlGlag 1Cyrl a8Zzzz 1Armn 26Zzzz 2Armn 32Zzzz 2Armn 3Zzzz 1Hebr 37Zzzz 8Hebr 1bZzzz
  4Hebr 6Zzzz bArab 5Zyyy 1Arab 6ZyyyArabNkooRohgSyrcThaaYezi 1Arab
  eZyyyArabNkooRohgSyrcThaaYezi 1ArabArabSyrcThaa 1Arab 2ZyyyAdlmArabNkooRohgSyrcThaaYezi 1Arab
  20ZyyyAdlmArabMandManiOugrPhlpRohgSogdSyrc 1Arab aZinhArabSyrc bArab aArabArabThaaYezi aArab
  6ZinhArabSyrc 1Arab 63ArabArabRohg 1Arab 8Zyyy 1Arab 22Syrc eZzzz 1Syrc 3cZzzz 2Syrc 3Arab
  30Thaa 32Zzzz eNkoo 3bZzzz 2Nkoo 3Samr 2eZzzz 2Samr fZzzz 1Mand 1cZzzz 2Mand 1Zzzz 1Syrc
  bZzzz 5Arab 1fZzzz 1Arab 2Zzzz 6Arab 4aZyyy 1Arab 1dDeva
  51ZinhBengDevaGranGujrGuruKndaLatnMlymOryaShrdTamlTeluTirh
  1ZinhBengDevaGranGujrGuruKndaLatnMlymOryaTamlTeluTirh 1Zinh 2Deva
  fZyyyBengDevaDogrGongGonmGranGujrGuruKndaMahjMlymNandOryaSindSinhSyloTakrTamlTeluTirh
  1ZyyyBengDevaDogrGongGonmGranGujrGuruKndaLimbMahjMlymNandOryaSindSinhSyloTakrTamlTeluTirh
  1DevaDevaDogrKthiMahj aDeva 10Beng 4Zzzz 1Beng 8Zzzz 2Beng 2Zzzz 2Beng 16Zzzz 1Beng 7Zzzz
  1Beng 1Zzzz 3Beng 4Zzzz 2Beng 9Zzzz 2Beng 2Zzzz 2Beng 4Zzzz 8Beng 1Zzzz 4Beng 2Zzzz 1Beng
  5Zzzz 2BengBengCakmSylo aBeng fZzzz 2Guru 3Zzzz 1Guru 6Zzzz 4Guru 2Zzzz 2Guru 16Zzzz 1Guru
  7Zzzz 1Guru 2Zzzz 1Guru 2Zzzz 1Guru 2Zzzz 2Guru 1Zzzz 1Guru 5Zzzz 4Guru 2Zzzz 2Guru 3Zzzz
  3Guru 1Zzzz 7Guru 4Zzzz 1Guru 1Zzzz 7GuruGuruMult aGuru 7Zzzz aGujr 3Zzzz 1Gujr 9Zzzz 1Gujr
  3Zzzz 1Gujr 16Zzzz 1Gujr 7Zzzz 1Gujr 2Zzzz 1Gujr 5Zzzz 2Gujr aZzzz 1Gujr 3Zzzz 1Gujr 3Zzzz
  2Gujr 1Zzzz fGujr 4Zzzz 2GujrGujrKhoj aGujr 2Zzzz 7Gujr 7Zzzz 1Orya 3Zzzz 1Orya 8Zzzz 2Orya
  2Zzzz 2Orya 16Zzzz 1Orya 7Zzzz 1Orya 2Zzzz 1Orya 5Zzzz 2Orya 9Zzzz 2Orya 2Zzzz 2Orya 3Zzzz
  7Orya 3Zzzz 4Orya 2Zzzz 1Orya 5Zzzz 2Orya 12Zzzz aTaml 2Zzzz 1Taml 6Zzzz 3Taml 3Zzzz 1Taml
  4Zzzz 3Taml 2Zzzz 1Taml 1Zzzz 1Taml 2Zzzz 3Taml 2Zzzz 3Taml 3Zzzz 3Taml cZzzz 4Taml 5Zzzz
  3Taml 3Zzzz 1Taml 4Zzzz 2Taml 1Zzzz 6Taml 1Zzzz eTamlGranTaml eTaml 7Zzzz 5Telu dZzzz 1Telu
  3Zzzz 1Telu 17Zzzz 1Telu 10Zzzz 2Telu 9Zzzz 1Telu 3Zzzz 1Telu 4Zzzz 7Telu 2Zzzz 1Telu 3Zzzz
  2Telu 1Zzzz 2Telu 4Zzzz 2Telu aZzzz 7Telu 9Knda dZzzz 1Knda 3Zzzz 1Knda 17Zzzz 1Knda aZzzz
  1Knda 5Zzzz 2Knda 9Zzzz 1Knda 3Zzzz 1Knda 4Zzzz 7Knda 2Zzzz 6Knda 2Zzzz 1Knda 4Zzzz
  2KndaKndaNand aZzzz 1Knda 2Zzzz dMlym dZzzz 1Mlym 3Zzzz 1Mlym 33Zzzz 1Mlym 3Zzzz 1Mlym 6Zzzz
  4Mlym 10Zzzz 2Mlym 1aZzzz 1Sinh 3Zzzz 1Sinh 12Zzzz 3Sinh 18Zzzz 1Sinh 9Zzzz 1Sinh 1Zzzz 2Sinh
  7Zzzz 3Sinh 1Zzzz 4Sinh 6Zzzz 1Sinh 1Zzzz 1Sinh 8Zzzz 6Sinh aZzzz 2Sinh 3Zzzz cThai 3aZzzz
  4Zyyy 1Thai 1cZzzz 25Laoo 2Zzzz 1Laoo 1Zzzz 1Laoo 5Zzzz 1Laoo 18Zzzz 1Laoo 1Zzzz 1Laoo 17Zzzz
  2Laoo 5Zzzz 1Laoo 1Zzzz 1Laoo 6Zzzz 2Laoo aZzzz 2Laoo 4Zzzz 20Tibt 48Zzzz 1Tibt 24Zzzz 4Tibt
  27Zzzz 1Tibt 24Zzzz 1Tibt fZzzz 1Tibt 7Zyyy 4Tibt 2Zzzz 25Mymr 40MymrCakmMymrTale aMymr
  56Geor 26Zzzz 1Geor 1Zzzz 5Geor 1Zzzz 2Geor 2bZyyyGeorLatn 1Geor 4Hang 100Ethi 49Zzzz 1Ethi
  4Zzzz 2Ethi 7Zzzz 1Ethi 1Zzzz 1Ethi 4Zzzz 2Ethi 29Zzzz 1Ethi 4Zzzz 2Ethi 21Zzzz 1Ethi 4Zzzz
  2Ethi 7Zzzz 1Ethi 1Zzzz 1Ethi 4Zzzz 2Ethi fZzzz 1Ethi 39Zzzz 1Ethi 4Zzzz 2Ethi 43Zzzz 2Ethi
  20Zzzz 3Ethi 1aZzzz 6Cher 56Zzzz 2Cher 6Zzzz 2Cans 280Ogam 1dZzzz 3Runr 4bZyyy 3Runr bZzzz
  7Tglg 16Zzzz 9Tglg 1Hano 15ZyyyBuhdHanoTagbTglg 2Zzzz 9Buhd 14Zzzz cTagb dZzzz 1Tagb 3Zzzz
  1Tagb 2Zzzz cKhmr 5eZzzz 2Khmr aZzzz 6Khmr aZzzz 6Mong 2ZyyyMongPhag 2Mong 1ZyyyMongPhag
  1Mong 14Zzzz 6Mong 59Zzzz 7Mong 2bZzzz 5Cans 46Zzzz aLimb 1fZzzz 1Limb cZzzz 4Limb cZzzz
  4Limb 1Zzzz 3Limb cTale 1eZzzz 2Tale 5Zzzz bTalu 2cZzzz 4Talu 1aZzzz 6Talu bZzzz 3Talu 2Khmr
  20Bugi 1cZzzz 2Bugi 2Lana 3fZzzz 1Lana 1dZzzz 2Lana bZzzz 6Lana aZzzz 6Lana eZzzz 2Zinh
  1fZzzz 31Bali 4dZzzz 3Bali 2fZzzz 1Sund 40Batk 34Zzzz 8Batk 4Lepc 38Zzzz 3Lepc fZzzz 3Lepc
  3Olck 30Cyrl 9Zzzz 7Geor 2bZzzz 2Geor 3Sund 8Zzzz 8ZinhBengDevaGranKnda 1ZinhDeva
  1ZinhBengDevaGranKnda 1ZyyyDevaGran 1ZinhDeva 1ZinhBengDeva 2ZinhDevaShrd 1ZinhBengDeva
  1ZinhDevaShrd 1ZinhDevaKndaMlymOryaTamlTelu 1ZinhDeva 1ZinhDevaShrd 2ZinhDeva 2ZinhDevaShrd
  1ZyyyBengDeva 1ZinhDeva 7ZyyyDevaNand 1ZyyyBengDeva 1ZyyyDeva 2ZinhBengDeva 1ZyyyDeva
  4ZyyyBengDevaGranKndaNandOryaTeluTirh 1ZyyyDevaGran 1ZinhDevaGranKnda 1ZyyyBengDeva 2ZyyyBeng
  1ZinhDevaGran 2ZyyyNand 1Zzzz 5Latn 26Grek 5Cyrl 1Latn 31Grek 5Latn 4Grek 5Latn dCyrl 1Latn
  46Grek 1ZinhGrek 2Zinh 36ZinhCyrlSyrc 1Zinh 1ZinhSyrc 1Zinh 5Latn 100Grek 16Zzzz 2Grek 6Zzzz
  2Grek 26Zzzz 2Grek 6Zzzz 2Grek 8Zzzz 1Grek 1Zzzz 1Grek 1Zzzz 1Grek 1Zzzz 1Grek 1fZzzz 2Grek
  35Zzzz 1Grek fZzzz 1Grek eZzzz 2Grek 6Zzzz 1Grek 13Zzzz 2Grek 3Zzzz 1Grek 9Zzzz 1Zyyy cZinh
  2Zyyy 21ZyyyLatnMong 1Zyyy 35Zzzz 1Zyyy bLatn 1Zzzz 2Zyyy bLatn 1Zyyy fZzzz 1Latn dZzzz 3Zyyy
  21Zzzz fZinh 20ZinhDevaGranLatn 1Zzzz fZyyy 26Grek 1Zyyy 3Latn 2Zyyy 6Latn 1Zyyy 1bLatn 1Zyyy
  11Latn 29Zyyy 3Zzzz 4Zyyy 297Zzzz 19Zyyy bZzzz 15Zyyy 3a0Brai 100Zyyy 274Zzzz 2Zyyy 20Zzzz
  1Zyyy 69Glag 60Latn 20Copt 74Zzzz 5Copt 7Geor 26Zzzz 1Geor 1Zzzz 5Geor 1Zzzz 2Tfng 38Zzzz
  7Tfng 2Zzzz eTfng 1Ethi 17Zzzz 9Ethi 7Zzzz 1Ethi 7Zzzz 1Ethi 7Zzzz 1Ethi 7Zzzz 1Ethi 7Zzzz
  1Ethi 7Zzzz 1Ethi 7Zzzz 1Ethi 7Zzzz 1Cyrl 20Zyyy 43ZyyyCyrlGlag 1Zyyy 1aZzzz 22Hani 1aZzzz
  1Hani 59Zzzz cHani d6Zzzz 1aZyyy cZzzz 4Zyyy 1ZyyyBopoHangHaniHiraKanaYiii
  2ZyyyBopoHangHaniHiraKana 1Zyyy 1Hani 1ZyyyHani 1Hani 1ZyyyBopoHangHaniHiraKanaYiii aZyyy
  1ZyyyBopoHangHaniHiraKana 1ZyyyBopoHangHaniHiraKanaYiii 8ZyyyBopoHangHaniHiraKana 4Zyyy 1Hani
  9ZinhBopoHani 4Hang 2ZyyyBopoHangHaniHiraKana 1ZyyyHiraKana 5Zyyy 1ZyyyBopoHangHaniHiraKana
  1Hani 4ZyyyHaniHiraKana 2ZyyyHani 2Zzzz 1Hira 56Zzzz 2ZinhHiraKana 2ZyyyHiraKana 2Hira
  3ZyyyHiraKana 1Kana 5aZyyyBopoHangHaniHiraKanaYiii 1ZyyyHiraKana 1Kana 3Zzzz 5Bopo 2bZzzz
  1Hang 5eZzzz 1ZyyyHani 10Bopo 20ZyyyHani 24Zzzz cKana 10Hang 1fZzzz 1ZyyyHani 28Zyyy 18Hang
  1fZyyy 1ZyyyHani 31Zyyy fZyyyHani cZyyy 4Kana 2fZyyyHani 1Kana 58ZyyyHani 19Zyyy aZyyyHani
  5Zyyy 60ZyyyHani 1fZyyy 1Hani 19c0Zyyy 40Hani 5200Yiii 48dZzzz 3Yiii 37Zzzz 9Lisu 30Vaii
  12cZzzz 14Cyrl 2fCyrlCyrlGlag 1Cyrl 30Bamu 58Zzzz 8ZyyyHaniLatn 8Zyyy 1aLatn 66Zyyy 3Latn
  40Zzzz 5Latn 2Zzzz 1Latn 1Zzzz 1Latn 5Zzzz 18Latn eSylo 2dZzzz
  3ZyyyDevaDogrGujrGuruKhojKndaKthiMahjMlymModiNandSindTakrTirh
  3ZyyyDevaDogrGujrGuruKhojKndaKthiMahjModiNandSindTakrTirh
  3ZyyyDevaDogrGujrGuruKhojKthiMahjModiSindTakrTirh 4Zzzz 6Phag 38Zzzz 8Saur 46Zzzz 8Saur cZzzz
  6Deva 11DevaBengDeva 1Deva 1DevaDevaTaml 1Deva cKali 2eZyyyKaliLatnMymr 1Kali 1Rjng 24Zzzz
  bRjng 1Hang 1dZzzz 3Java 4eZzzz 1ZyyyBugiJava 1Java aZzzz 4Java 2Mymr 1fZzzz 1Cham 37Zzzz
  9Cham eZzzz 2Cham aZzzz 2Cham 4Mymr 20Tavt 43Zzzz 18Tavt 5Mtei 17Zzzz aEthi 6Zzzz 2Ethi 6Zzzz
  2Ethi 6Zzzz 9Ethi 7Zzzz 1Ethi 7Zzzz 1Latn 2bZyyy 1Latn 9Grek 1Latn 4Zyyy 2Zzzz 4Cher 50Mtei
  2eZzzz 2Mtei aZzzz 6Hang 2ba4Zzzz cHang 17Zzzz 4Hang 31Zzzz 2104Hani 16eZzzz 2Hani 6aZzzz
  26Latn 7Zzzz cArmn 5Zzzz 5Hebr 1aZzzz 1Hebr 5Zzzz 1Hebr 1Zzzz 1Hebr 2Zzzz 1Hebr 2Zzzz 1Hebr
  aArab 73Zzzz 10Arab 16bZyyyArabNkoo 2Arab 50Zzzz 2Arab 36Zzzz 7Arab 1Zzzz 20Arab
  2ArabArabThaa 1Arab aArabArabThaa 1Arab 2Zinh 10Zyyy aZzzz 6Zinh eCyrl 2Zyyy
  15ZyyyBopoHangHaniHiraKana 2Zyyy cZzzz 1Zyyy 13Zzzz 1Zyyy 4Zzzz 4Arab 5Zzzz 1Arab 87Zzzz
  2Zyyy 1Zzzz 1Zyyy 20Latn 1aZyyy 6Latn 1aZyyy 6ZyyyBopoHangHaniHiraKanaYiii 5Kana
  aZyyyHiraKana 1Kana 2dZyyyHiraKana 2Hang 1fZzzz 3Hang 6Zzzz 2Hang 6Zzzz 2Hang 6Zzzz 2Hang
  3Zzzz 3Zyyy 7Zzzz 1Zyyy 7Zzzz aZyyy 5Zzzz 2Linb cZzzz 1Linb 1aZzzz 1Linb 13Zzzz 1Linb 2Zzzz
  1Linb fZzzz 2Linb eZzzz 22Linb 7bZzzz 5ZyyyCpmnCprtLinb 2ZyyyCprtLinb 1Zzzz 4ZyyyCprtLinaLinb
  2dZzzz 3ZyyyCprtLinb 9Grek 4fZzzz 1Zyyy dZzzz 3Grek 1Zzzz 2fZyyy 2dZinh 1Zzzz 82Lyci 1dZzzz
  3Cari 31Zzzz fZinhArabCopt 1ZyyyArabCopt 1bZzzz 4Ital 24Zzzz 9Ital 3Goth 1bZzzz 5Perm 2bZzzz
  5Ugar 1eZzzz 1Ugar 1Xpeo 24Zzzz 4Xpeo eZzzz 2aDsrt 50Shaw 30Osma 1eZzzz 2Osma aZzzz 6Osge
  24Zzzz 4Osge 24Zzzz 4Elba 28Zzzz 8Aghb 34Zzzz bAghb 1Vith bZzzz 1Vith fZzzz 1Vith 7Zzzz 1Vith
  2Zzzz 1Vith bZzzz 1Vith fZzzz 1Vith 7Zzzz 1Vith 2Zzzz 43Lina 137Zzzz 9Lina 16Zzzz aLina 8Zzzz
  18Latn 6Zzzz 1Latn 2aZzzz 1Latn 9Zzzz 45Cprt 6Zzzz 2Cprt 1Zzzz 1Cprt 2cZzzz 1Cprt 2Zzzz 3Cprt
  1Zzzz 2Cprt 1Armi 16Zzzz 1Armi 9Palm 20Nbat 1fZzzz 8Nbat 9Zzzz 30Hatr 13Zzzz 1Hatr 2Zzzz
  5Hatr 5Phnx 1cZzzz 3Phnx 1Lydi 1aZzzz 5Lydi 1Zzzz 40Mero 20Merc 18Zzzz 4Merc 14Zzzz 2Merc
  2eKhar 4Zzzz 1Khar 2Zzzz 5Khar 8Zzzz 1Khar 3Zzzz 1Khar 1dZzzz 2Khar 3Zzzz 4Khar aZzzz 7Khar
  9Zzzz 7Sarb 20Narb 20Zzzz 20Mani 27Zzzz 4Mani 7ManiManiOugr 1Mani 4Zzzz 9Avst 36Zzzz 3Avst
  7Prti 16Zzzz 2Prti 8Phli 13Zzzz 5Phli 8Phlp 12Zzzz 7Phlp 4Zzzz cPhlp 7Zzzz 50Orkh 49Zzzz
  37Hung 33Zzzz dHung 33Zzzz 7Hung 6Rohg 28Zzzz 8Rohg aZzzz 126Arab 1fZzzz 1Yezi 2aZzzz 1Yezi
  3Zzzz 2Yezi 2Zzzz 4eSogo 28Zzzz 8Sogd 2aZzzz 16Ougr 1aZzzz 26Chrs 1cZzzz 14Elym 17Zzzz 9Brah
  4eZzzz 4Brah 24Zzzz 9Brah 1Kthi 43Zzzz aKthi 1Zzzz 2Sora 19Zzzz 7Sora aZzzz 6Cakm 35Zzzz
  1Cakm 12Zzzz 8Mahj 27Zzzz 9Shrd 60Zzzz 1Sinh 14Zzzz bKhoj 12Zzzz 1Khoj 2cZzzz 41Mult 7Zzzz
  1Mult 1Zzzz 1Mult 4Zzzz 1Mult fZzzz 1Mult bZzzz 6Sind 3bZzzz 5Sind aZzzz 6Gran 1GranGranTaml
  1Gran 1GranGranTaml 1Zzzz 1Gran 8Zzzz 2Gran 2Zzzz 2Gran 16Zzzz 1Gran 7Zzzz 1Gran 2Zzzz 1Gran
  5Zzzz 1ZinhGranTaml 1GranGranTaml 1Gran 8Zzzz 2Gran 2Zzzz 2Gran 3Zzzz 2Gran 1Zzzz 6Gran 1Zzzz
  5Gran 7Zzzz 2Gran 7Zzzz 3Gran 5Zzzz 8bNewa 5cZzzz 1Newa 5Zzzz 1eTirh 48Zzzz 8Tirh aZzzz
  a6Sidd 36Zzzz 2Sidd 26Zzzz 22Modi 45Zzzz bModi aZzzz 6Mong dZzzz 13Takr 3aZzzz 6Takr aZzzz
  36Ahom 1bZzzz 2Ahom fZzzz 4Ahom 17Zzzz b9Dogr 3cZzzz 64Wara 53Zzzz cWara 1Diak 7Zzzz 2Diak
  1Zzzz 2Diak 8Zzzz 1Diak 2Zzzz 1Diak 1eZzzz 1Diak 2Zzzz 2Diak cZzzz 9Diak aZzzz 46Nand 8Zzzz
  2Nand 2eZzzz 2Nand bZzzz 1bZanb 48Zzzz 8Soyo 53Zzzz dCans 10Pauc 39Zzzz 107Bhks 9Zzzz 1Bhks
  2dZzzz 1Bhks eZzzz aBhks 1dZzzz 3Marc 20Zzzz 2Marc 16Zzzz 1Marc eZzzz 49Gonm 7Zzzz 1Gonm
  2Zzzz 1Gonm 2cZzzz 3Gonm 1Zzzz 1Gonm 2Zzzz 1Gonm 9Zzzz 8Gonm aZzzz 6Gong 6Zzzz 1Gong 2Zzzz
  1Gong 25Zzzz 1Gong 2Zzzz 1Gong 6Zzzz 7Gong aZzzz 136Maka 19Zzzz b7Lisu 1Zzzz fTaml
  10TamlGranTaml 2Taml 1TamlGranTaml 1Taml 1eZzzz dTaml 1Xsux 39aZzzz 66Xsux 6fZzzz 1Xsux 5Zzzz
  bXsux c4Zzzz a4cCpmn 63Zzzz dEgyp 42fZzzz 1Egyp 9Zzzz fc7Hluw 247Zzzz 21b9Bamu 239Zzzz 7Mroo
  1fZzzz 1Mroo aZzzz 4Mroo 2Tnsa 4fZzzz 1Tnsa aZzzz 6Bass 1eZzzz 2Bass 6Zzzz aHmng 46Zzzz aHmng
  aZzzz 1Hmng 7Zzzz 1Hmng 15Zzzz 5Hmng 13Zzzz 2b0Medf 5bZzzz 65Plrd 4bZzzz 4Plrd 39Zzzz 7Plrd
  11Zzzz 40Tang 1Nshu 1Hani 2Kits 1Zzzz bHani 2Zzzz eTang 17f8Zzzz 8Tang 300Kits 1d6Zzzz 2aTang
  9Zzzz 22e7Kana 4Zzzz 1Kana 7Zzzz 1Kana 2Zzzz 1Kana 1Hira 11fKana 3Zzzz 2dHira 3Zzzz 11Kana
  4Zzzz 8Nshu 18cZzzz 904Dupl 6bZzzz 5Dupl dZzzz 3Dupl 9Zzzz 7Dupl aZzzz 2Dupl 4ZyyyDupl 4Zzzz
  125cZinh 2eZzzz 2Zinh 17Zzzz 9Zyyy 74Zzzz 3cZyyy f6Zzzz aZyyy 27Zzzz 2Zyyy 3eZinh 3Zyyy
  11Zinh 8Zyyy 2Zinh 7Zyyy 1eZinh 4Zyyy 3dZzzz 15Grek 46Zzzz 9aZyyy 14Zzzz cZyyy 57Zzzz
  9ZyyyHani 12Zyyy 7Zzzz 87Zyyy 55Zzzz 1Zyyy 47Zzzz 1Zyyy 2Zzzz 2Zyyy 1Zzzz 2Zyyy 2Zzzz 2Zyyy
  4Zzzz 1Zyyy cZzzz 1Zyyy 1Zzzz 1Zyyy 7Zzzz 1Zyyy 41Zzzz 1Zyyy 4Zzzz 2Zyyy 8Zzzz 1Zyyy 7Zzzz
  1Zyyy 1cZzzz 1Zyyy 4Zzzz 1Zyyy 5Zzzz 1Zyyy 1Zzzz 3Zyyy 7Zzzz 1Zyyy 154Zzzz 2Zyyy 124Zzzz
  2Zyyy 32Sgnw 28cZzzz fSgnw 5Zzzz 1Sgnw fZzzz 450Latn 1fZzzz e1Glag 7Zzzz 1Glag 11Zzzz 2Glag
  7Zzzz 1Glag 2Zzzz 1Glag 5Zzzz d5Hmnp 2dZzzz 3Hmnp eZzzz 2Hmnp aZzzz 4Hmnp 2Zzzz 140Toto
  1fZzzz 11Wcho 3aZzzz 5Wcho 1Zzzz 4e0Ethi 7Zzzz 1Ethi 4Zzzz 1Ethi 2Zzzz 1Ethi fZzzz 1Mend
  c5Zzzz 2Mend 10Zzzz 29Adlm 4cZzzz 4Adlm aZzzz 4Adlm 2Zzzz 311Zyyy 44Zzzz 4cZyyy 3dZzzz c2Arab
  4Zzzz 1Arab 1bZzzz 1Arab 2Zzzz 1Arab 1Zzzz 2Arab 1Zzzz 1Arab aZzzz 1Arab 4Zzzz 1Arab 1Zzzz
  1Arab 1Zzzz 6Arab 1Zzzz 4Arab 1Zzzz 1Arab 1Zzzz 1Arab 1Zzzz 1Arab 3Zzzz 1Arab 2Zzzz 1Arab
  1Zzzz 2Arab 1Zzzz 1Arab 1Zzzz 1Arab 1Zzzz 1Arab 1Zzzz 1Arab 1Zzzz 1Arab 2Zzzz 1Arab 1Zzzz
  2Arab 4Zzzz 1Arab 7Zzzz 1Arab 4Zzzz 1Arab 4Zzzz 1Arab 1Zzzz 1Arab aZzzz 1Arab 11Zzzz 5Arab
  3Zzzz 1Arab 5Zzzz 1Arab 11Zzzz 34Arab 2Zzzz 10eZyyy 2cZzzz 4Zyyy 64Zzzz cZyyy fZzzz 2Zyyy
  fZzzz 1Zyyy fZzzz 1Zyyy 25Zzzz aZyyy aeZzzz 38Zyyy 1aHira 1Zyyy 2Zzzz dZyyy 2cZzzz 4Zyyy
  9Zzzz 7ZyyyHani 2Zzzz eZyyy 6Zzzz 9aZyyy 3d8Zzzz 5Zyyy 10Zzzz 3Zyyy dZzzz 3Zyyy 74Zzzz cZyyy
  59Zzzz 7Zyyy cZzzz 4Zyyy 1Zzzz fZyyy cZzzz 4Zyyy 38Zzzz 8Zyyy aZzzz 6Zyyy 28Zzzz 8Zyyy 1eZzzz
  2Zyyy 2Zzzz 4eZyyy 154Zzzz cZyyy eZzzz 2Zyyy 5Zzzz 3Zyyy 5Zzzz 3Zyyy 7Zzzz 9Zyyy 1dZzzz 3Zyyy
  bZzzz 5Zyyy 6Zzzz aZyyy aZzzz 6Zyyy 8Zzzz 8Zyyy 7Zzzz 9Zyyy 93Zzzz 1Zyyy 37Zzzz 25Zyyy aZzzz
  406Hani a6e0Zzzz 20Hani 1039Zzzz 7Hani deZzzz 2Hani 1682Zzzz eHani 1d31Zzzz c1fHani 21eZzzz
  5e2Hani 134bZzzz aecb6Zyyy 1Zzzz 1eZyyy 60Zzzz 80Zinh f0Zzzz"

def scriptNames : String :=
  "Adlm:adlm:adlam Aghb:aghb:caucasianalbanian Ahom:ahom Arab:arab:arabic
  Armi:armi:imperialaramaic Armn:armn:armenian Avst:avst:avestan Bali:bali:balinese
  Bamu:bamu:bamum Bass:bass:bassavah Batk:batk:batak Beng:beng:bengali Bhks:bhks:bhaiksuki
  Bopo:bopo:bopomofo Brah:brah:brahmi Brai:brai:braille Bugi:bugi:buginese Buhd:buhd:buhid
  Cakm:cakm:chakma Cans:cans:canadianaboriginal Cari:cari:carian Cham:cham Cher:cher:cherokee
  Chrs:chrs:chorasmian Copt:copt:coptic:qaac Cpmn:cpmn:cyprominoan Cprt:cprt:cypriot
  Cyrl:cyrl:cyrillic Deva:deva:devanagari Diak:diak:divesakuru Dogr:dogr:dogra
  Dsrt:dsrt:deseret Dupl:dupl:duployan Egyp:egyp:egyptianhieroglyphs Elba:elba:elbasan
  Elym:elym:elymaic Ethi:ethi:ethiopic Geor:geor:georgian Glag:glag:glagolitic
  Gong:gong:gunjalagondi Gonm:gonm:masaramgondi Goth:goth:gothic Gran:gran:grantha
  Grek:grek:greek Gujr:gujr:gujarati Guru:guru:gurmukhi Hang:hang:hangul Hani:hani:han
  Hano:hano:hanunoo Hatr:hatr:hatran Hebr:hebr:hebrew Hira:hira:hiragana
  Hluw:hluw:anatolianhieroglyphs Hmng:hmng:pahawhhmong Hmnp:hmnp:nyiakengpuachuehmong
  Hung:hung:oldhungarian Ital:ital:olditalic Java:java:javanese Kali:kali:kayahli
  Kana:kana:katakana Khar:khar:kharoshthi Khmr:khmr:khmer Khoj:khoj:khojki
  Kits:kits:khitansmallscript Knda:knda:kannada Kthi:kthi:kaithi Lana:lana:taitham
  Laoo:laoo:lao Latn:latn:latin Lepc:lepc:lepcha Limb:limb:limbu Lina:lina:lineara
  Linb:linb:linearb Lisu:lisu Lyci:lyci:lycian Lydi:lydi:lydian Mahj:mahj:mahajani
  Maka:maka:makasar Mand:mand:mandaic Mani:mani:manichaean Marc:marc:marchen
  Medf:medf:medefaidrin Mend:mend:mendekikakui Merc:merc:meroiticcursive
  Mero:mero:meroitichieroglyphs Mlym:mlym:malayalam Modi:modi Mong:mong:mongolian Mroo:mroo:mro
  Mtei:mtei:meeteimayek Mult:mult:multani Mymr:mymr:myanmar Nand:nand:nandinagari
  Narb:narb:oldnortharabian Nbat:nbat:nabataean Newa:newa Nkoo:nkoo:nko Nshu:nshu:nushu
  Ogam:ogam:ogham Olck:olck:olchiki Orkh:orkh:oldturkic Orya:orya:oriya Osge:osge:osage
  Osma:osma:osmanya Ougr:ougr:olduyghur Palm:palm:palmyrene Pauc:pauc:paucinhau
  Perm:perm:oldpermic Phag:phag:phagspa Phli:phli:inscriptionalpahlavi Phlp:phlp:psalterpahlavi
  Phnx:phnx:phoenician Plrd:plrd:miao Prti:prti:inscriptionalparthian Rjng:rjng:rejang
  Rohg:rohg:hanifirohingya Runr:runr:runic Samr:samr:samaritan Sarb:sarb:oldsoutharabian
  Saur:saur:saurashtra Sgnw:sgnw:signwriting Shaw:shaw:shavian Shrd:shrd:sharada
  Sidd:sidd:siddham Sind:sind:khudawadi Sinh:sinh:sinhala Sogd:sogd:sogdian
  Sogo:sogo:oldsogdian Sora:sora:sorasompeng Soyo:soyo:soyombo Sund:sund:sundanese
  Sylo:sylo:sylotinagri Syrc:syrc:syriac Tagb:tagb:tagbanwa Takr:takr:takri Tale:tale:taile
  Talu:talu:newtailue Taml:taml:tamil Tang:tang:tangut Tavt:tavt:taiviet Telu:telu:telugu
  Tfng:tfng:tifinagh Tglg:tglg:tagalog Thaa:thaa:thaana Thai:thai Tibt:tibt:tibetan
  Tirh:tirh:tirhuta Tnsa:tnsa:tangsa Toto:toto Ugar:ugar:ugaritic Vaii:vaii:vai
  Vith:vith:vithkuqi Wara:wara:warangciti Wcho:wcho:wancho Xpeo:xpeo:oldpersian
  Xsux:xsux:cuneiform Yezi:yezi:yezidi Yiii:yiii:yi Zanb:zanb:zanabazarsquare
  Zinh:zinh:inherited:qaai Zyyy:zyyy:common Zzzz:zzzz:unknown"

end RuleRegex.Unicode.Data
