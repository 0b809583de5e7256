/-!
Characters of every script. A class of characters is written as the lengths of its stretches: so many code points from
zero on are outside, so many after them inside, so many outside again. The classes hold characters beyond ASCII; the
ASCII part of a class is written out where the class is defined. Of letter case there is the way down, as runs
`(first, last, step, up, by)`: the characters `first`, `first + step`, … `last` change by `by` code points, upwards when
`up` holds. The way up is the way back, apart from what is listed.
-/

namespace QueryDesk.Text.Ranges

/-- The numbers that a row of letters stands for: a letter, of `A` to `Z` and then `a` to `z`, is a number below 52, and
each of a number in front of it counts 52. -/
def lengths (front : Nat) : List Char → List Nat
  | [] => []
  | c :: rest =>
    if c ≤ '9' then lengths (10 * front + (c.toNat - '0'.toNat)) rest
    else (52 * front + (if c ≤ 'Z' then c.toNat - 'A'.toNat else c.toNat - 'a'.toNat + 26)) :: lengths 0 rest

/-- The runs that a row of numbers stands for: how far behind the last run one begins, how many characters come after
its first, the step and the direction in one number, and the change. -/
def runsFrom (last : Nat) : List Nat → List (Nat × Nat × Nat × Bool × Nat)
  | gap :: more :: kind :: by_ :: rest =>
    let step := kind / 2 + 1
    let final := last + gap + more * step
    (last + gap, final, step, kind % 2 == 1, by_) :: runsFrom final rest
  | _ => []

/-- Letters and numbers of every script. -/
def alnum : List Nat := lengths 0 "3OBHCBBDCBDBXBfB8qEMOFHBBB2ZFBCCEBBGBBDBBBUB1fB2jI3KBmCBGp1TbEEtrVKECB1vBBPCHPCBQBBed1lLBOrJCEBFWEBJBDBXZHLFYBGRq1G1CD
BSBHKEKBQEICCCWBHBBDEDBQBNCBDEMCGCBIGECCWBHBCBCBCfEBBHKCDQJBDBWBHBCBFDBSBPCEKJBLICCCWBHBCBFDBeCBDEKBHLBBGDDBEDCBBBCDCD
DDMWBVNSIBDBXBQDBaDCBCCEKIHBBEIBDBXBKBFDBfCBCEKBCRJBDBpCBQBFDBKETBGFSDYBJBBCHfKRwBCMHJKnCBBBFBYBBBKBCJBCFBBJKCEgBfUMIB
kbF2LrULGGEEDBDCHDENMBBKGmBBFBCrB6VBECHBBBECpBEChBECHBBBECPB1FBEC1POUDQQ1iCGD11wCRBaF1XDLHSNTOSONBDP1AjBEBDKGKWKG1lHFC
iBBF1SKfnoCFLsEaGLlXJ1BrKGKNB1pvRIDKpeN1EakcKDxCJHrCDpEBGBCDBF3k1M5SCGCmCGCIBBBBBBBfC1BBHBBDDBHDECGENFDBH2LCCGFLGN1xBE
BCKBBDFGBBBBBBEBLCEFFEBB1G13y1I1aW12Ge21o4VGEDCJBCmBBFBC1EHBQXJHBHBHBHBHBHBHBH1cB9BDZJHFCFE1iGDB1mBEFrB1qDEKgwQgKeIBPg
KnP6I126o1M426F1PuC5JDcUvQfC1cnJC1zC1MFCBBBFYQBDBEBXNGK1AOycKYGDBBCBmKXZdHvcLGFBZBpXDBIEKGXDBDyBBDCCFCBBBYDCLHDMGCGCGJ
HBHBrBOG2LNKG214sMXEx162c7CC2CmHMFFBBKBNBFBBBCBCB2Eh6zS1MC1CoM2MFB2fTKHaGaL1lDGCGCGCDjMBaBTBCBPCOi2TMtM1FRC4kdDxQbEkJe
FmKeCkEIBFq3CCKGkEkEoI1AMLBPBHBCBLBPBHBC1P5zJWKIYGBqBJ1RGCBBsBCDBCXCfCmIJwTBCFhEa1S1EEUCvPEBDBdKJXfBggIBcGFQ1CKWCbFaXH
1c1V1DzNzHqMK5ifBqGC1aoIWLEbSucUXM1BaeBCCBNtgZHKJkPKEBCBIjDBMwOELLBBEULSBZ1gHBBBEBPBKHvRKLICCCWBHBCBFDBSBMF3C1BSEFKFDe
wUCBBIK3KvpEkwUBLKmrNBHK1CbVMEH3ds2M1fMICBCIBCBYPBBBOK1SICnQBBBcBKoHBVBLuTBS1V5DJBlRBPdFe2IHBCBmVBJKGGBCBgOBHK5yT3hBPV
r17m1y2HR3o50k1tP20f77t11L166B10xHfBKG1bBKGeSwQEMKBHBVFT13M1j2B1XFB1ON1MCBBc118AI23qqJ171rEBHBCB5ftDREI7g44U2DFNDJHK
109iU2EZ2f1hB1TBCCBCCCEBMBBBHB1NBECIBHBcBEBFBBDHB6cCZBZBfBZBfBZBfBZBfBZBICy34Yf9NtKHCKEB6JeSsEK24GHBEBCBPB3pCJw1QHBEK
15L1HBDBE1YtBP3mEBbBCBBCBBKBEBBBBGBEBBBBBBDBCBBCBBBBBBBBBBCBBCEBHBEBEBBBKBRFDBFBR11IN53fK19q821cg79tH4OC110qO143l59j
10W28y94z".toList

/-- The first of ten digits each that write a decimal number. -/
def decimal : Array Nat := #[
  1632,1776,1984,2406,2534,2662,2790,2918,3046,3174,3302,3430,3558,3664,3792,3872,4160,4240,6112,6160,6470,6608,6784,
  6800,6992,7088,7232,7248,42528,43216,43264,43472,43504,43600,44016,65296,66720,68912,69734,69872,69942,70096,70384,
  70736,70864,71248,71360,71472,71904,72016,72784,73040,73120,92768,92864,93008,120782,120792,120802,120812,120822,
  123200,123632,125264,130032]

def otherDigit : List Nat := lengths 0 "3WCFB91zJ31cB32VBDGGK18uJLJLJ1lBKJBB12GJBJBJ1115xE20MJ9VJ1105xL".toList

/-- Characters with no glyph of their own: controls, format marks, separators, unassigned. -/
def unprintable : List Nat := lengths 0 "2YhMB13mCGEHBBBUB7hBmCyCDB1DIbEGRWB3kBwC1HC1xO1HCxCPBcCBBLFfJ1WB3FBICCCWBHBBDECJCCCEIBECBFCZCDBGECCWBHBCBCBCCBBFECCDDB
HEBBHRKDBJBDBWBHBCBFCKBDBDCBPECMHHBDBICCCWBHBCBFCJCCCDHDECBFCSKCBGDDBEDCBBBCDCDDDMEFDDBECBGBOVFNBDBXBQCJBDBEHCBDCBCECK
HWBDBXBKBFCJBDBEHCGCBECKBCNNBDBzBDBGEQCaBDBSDYBJBBCHDBEGBBBIGKCDM1GEdlCBBBFBYBBBXCFBBBGCKCEg1UBkEnBkBPBNl3qBBFBC7NBECH
BBBECpBEChBECHBBBECPB1FBEC1PCgDaG1iCGC12QBcD1lHWJYJUMNBDBCM1qCKGKGOBLG1lHrF1SKfBMEMEBDqCFLsEaGLD1KC1NBdCLGKGOCfx1ZDvB
2MI1IDPD1IHrCLIrF10OCGCmCGCIBBBBBBBfC1BBPBOCGBTCDBJRYIvRCCbBNDhPhP2kE12nZLV34sCgB6lFtBBFBC1EHCOYJHBHBHBHBHBHBHBHB2WiaB
1lM4GaMF1LB1iC1zFrB1qB1gMvB563RD1DJ6kU3cI3vFCBBBFY1HDKG1EI1SIMG2MLeD1aBLEhB1DJOCKC1zYcKGCGCGJHBHB1IE2WCKG214sMXExE39U
123E7CC2CmHMFFaBFBBBCBCB2VQ8dC1CHBgqGzBTBEEFB2fE3iDGCGCGCDDHBHNCCMBaBTBCBPCOi2TFDEtD1kBNDBvu2adDxPcEkJeFrFeBlEOq3CCKGk
EkEoI1ALMBPBHBCBLBPBHBC1P5zJWKIYGBqBJ1RGCBBsBCDBCXB1UIJwTBCFhDbFB1M1EEUCyBCFIBDBdCDEKHJH1MgnEMJ1CDdCbFaHEMH1c1V1DzNzHu
IK5ifBqBDCC1aoIqWamcUXJ1aEkJ1KBFNZHKG1BBSInJ1sBULSBs1NHBBBEBPBLG1HFKGEBICCCWBHBCBFBKCCCDCBGBFHCHDF2j1oBFe1UIK3K1CCmi1R
LKGNT1GGK1CbCPEX3d1I1w1fMICBCIBCBeBCCMJK1SICuCLb1UI1fN1V5DJBtBOKdDgCWBO1VHBCBsDBBCBJIKGGBCBlBCBGHK5yZ3bBPyN17n1y2HBFL
3o50k1vN20f77t11L166B10xHfBKE1dBKGeCGK1SKKBHBVFT13M1n1x1XE1FHR1MFLCO118AI23qqJ171rEBHBCB5ftDREI7g44U2DFNDJHKCE90YuCXJ
2M1I4mKnC1WI2IV1S2yUM1jJZ2f1hB1TBCCBCCCEBMBBBHB1NBECIBHBcBEBFBBDHB6cC5gC13aPFBP21Mf4RHBRCHBCBF4FtDOCKEC6IfR1GFB24AHBEB
CBPB3pCQp1YEKEC15F1Q1Y1J3mEBbBCBBCBBKBEBBBBGBEBBBBBBDBCBBCBBBBBBBBBBCBBCEBHBEBEBBBKBRFDBFBR1AC5KsE1wMPCPBPBlK3S1EdNsEJ
HCOG2y18wFQDND2MM1lHMEBPME1EIKGoIeCC1a6cMOCFDFDHJdDLFGKKGIIHJ2rB1DlK19q821cg79tH4OC110qO143l59j10W28y94z13773R4g3771U".toList

/-- Upper-case letters that have no lower case. -/
def onlyUpper : List Nat := lengths 0 "18qD143hBEBDDCDCBDFGBDBDCCCBBKCFB2140KaaaaaaBBCCBCCCEBIaaaCBECIBHbCBEBFBBDHbaaa
aaaaaaaaeZhZhZhZhZhB125BaGaGa".toList

/-- Lower-case letters that have no upper case. -/
def onlyLower : List Nat := lengths 0 "3OBPB2VB1gBNBOCOBDB1uBSGbBCBBBCDCBBBCBFCBBCCBHBCBBCDGFBBBICaHCeF2tB2ZB6rBnB115b2RBDBQBx4MCBB8xBNBQN2FBDCDBbBEBEBCCIE
54vBCBCH1yB599LC2qC1KJVBGBZBjBBBiD15pjBHBN453TBCDBqBJ1006HaaHBSaaaEBBBHBLaaaaaaaaaaaaaaaaaccZBGaZBGaZBGaZBGaZBGBB35YKB
U".toList

def titled : List Nat := lengths 0 "8lBCBCBmB145hIIIIIMBPBvB".toList

/-- Marks that the case of a word looks past. -/
def caseIgnorable : List Nat := lengths 0 "nBGBLBjBBB1TBEBBBEBCC9j3kECEBJCBB4rH3zBFBxtBBBCBCBBsBLGKLBBjBKVQB1xIBKBEhBBBeb1nL1GLEBCBYYrDsBHCGIp1G1DBBBEIEBDHKCNBPB
1GBEEIBUCaBCC1FBECECCDDBeCDBLC1FBEFBCEBUCWGBB1GBCBBEIBHCLCeB1JBMByBDB1DBBDFDBEHCLCdB1GBCBGBFCUCcC1FCEEIBUCdB1UBHDBB1mB
CHLJ1uBCJJBBG1WCbBBBBB1DOBFBCFLBkJB1yEBGBCCCZCEDQENBCCGBPB1qB11kD18KDdCeCeC1MCBHIBCLDBFBtFzB1NCiB2ODECJBGD4LCCB1GBBHBB
BBCIGKCBnBIfxEwBBFBBFBoJMCgECCBD1EBBCDBBD1GICC1MG1eDBNBHEBGBDCy1LNBi1x8dBBDLDNDNDNCMFICKBCBCFxFBKBBNBQNzh56rC2JD2VBPB
1sgvB9BBkEDFFB1pG1pD546uB24CG5KB1uEBKBBcE1cCOi1aBXD1zDDCIBDBEBZCFB2vCaSNBmIZLuDwBCECCRBVC1OGCCCCMBIBjBLBzBBDCCFCBBbBOC
FCBB1wFJD2RBCBEB389sB2rR11BQDBMQiBCB3NBHBGBLBjBBBvBtC1PBVD9tB4SB2tF19pGBqBJ11KDBCFEoDEB3JC11BE7XC2xLxE2TB1CPpBCCKDxECC
CBEBKByDkFBI1KBMC1AJKECB1rDCBBCGB3EBDIVC1FCDBlHDF3nICDBBXB1gGBBECBC4eEGCBCbC1hICBBC2CBBBCGBB1xDCEBF4zJBC4wCBBEB2oECCEB
gKoGCEIBJGCDuNBC7qHBGBB1eWCHBCBC2SGDBBCBHBB1UCDBBB6jC104bJ269TF1HHJE19vB1LR1MCBC315PEBHBC62GCBE90UuCX10YDJQCHeE2sD38D
1DEyIBOBWFBP26IHBRCHBCBF5BO7EB1JE28wH2FI52fF15182pBe1s2Y4g".toList

def toLower : Array (Nat × Nat × Nat × Bool × Nat) := (runsFrom 0 (lengths 0 "3kWBgCGBgiXDBECDBDHDBDWDBCAA2RBCDBEAB4CB
BDBCAB3yBABBCBB3xBABBDAB1bBAB3uBAB3vBABBCAB3xBAB3zCAB4DBAB4BBABBEAB4DBAB4FCAB4GBCDBCAB4KBABBCAB4KDABBCAB4KBABBCBB4JBBD
BCAB4LBABBEABBIABCBABBCABCBABBCABCBIDBDIDBDABCBBDBCAA1tBAA1EBTDBCAA2aCIDBIAB207fBABBCAA3HBAB207cDABBCAA3nBAB1RBAB1TBED
B5eBDBEABBJAB2MHABmCCBlCAB1MCBB1LCQBgCIBgkABIJLDBGAA1IDABBCAAHBABBDCA2aBPB1cBfBgxQDBKaDBCABPBGDBDvDBDlBw55elB139kCAB
139kGAB139k13v1bB747UBFBI42TqA57sDCA57s6J1WDBKAA146XCvDBKHAIJFAILHAIJHAIJFAIMDCIJHAIZHAIJHAIJHAIJBAIBBA1WBAAJMDA1iBAAJ
MBAIBBA1wNBAIBBA2IBAAHMBA2YBBA2WBAAJ5mAA144dEAA161LBAA158uHABcuPBQUABB15nZBa35VvBwxABBCAA206fBAA73SBAA206PDCDBCAA207QB
AA206lBAA207TBAA207SCABBDABBJBA207zBxDBJBDBFABB597KWDBUNDB2gGDBEeDBLBDBCAA679YBEDBFABBCAA813EDBDBEJDBCAA813gBAA813rBAA
813nBAA813dBAA813gCAA812iBAA813GBAA812lBAB17sBHDBCAAwBAA813fBAA680YBBDBHABBGBDBdABB429IZBg23anBo2hjBo3BKBnCOBnCGBnCBBn
34DyB1M58mfBg420xfBg603lhBi".toList)).toArray

def toLowerMany : List (Nat × List Nat) := [
  (304,[105,775])]

/-- Upper case that is not the way back. -/
def toUpper : List (Nat × List Nat) := [
  (181,[924]),(223,[83,83]),(305,[73]),(329,[700,78]),(383,[83]),(453,[452]),(456,[455]),(459,[458]),(496,[74,780]),
  (498,[497]),(837,[921]),(912,[921,776,769]),(944,[933,776,769]),(962,[931]),(976,[914]),(977,[920]),(981,[934]),
  (982,[928]),(1008,[922]),(1009,[929]),(1013,[917]),(1415,[1333,1362]),(7296,[1042]),(7297,[1044]),(7298,[1054]),
  (7299,[1057]),(7300,[1058]),(7301,[1058]),(7302,[1066]),(7303,[1122]),(7304,[42570]),(7830,[72,817]),
  (7831,[84,776]),(7832,[87,778]),(7833,[89,778]),(7834,[65,702]),(7835,[7776]),(8016,[933,787]),(8018,[933,787,768]),
  (8020,[933,787,769]),(8022,[933,787,834]),(8114,[8122,921]),(8115,[913,921]),(8116,[902,921]),(8118,[913,834]),
  (8119,[913,834,921]),(8124,[913,921]),(8126,[921]),(8130,[8138,921]),(8131,[919,921]),(8132,[905,921]),
  (8134,[919,834]),(8135,[919,834,921]),(8140,[919,921]),(8146,[921,776,768]),(8147,[921,776,769]),(8150,[921,834]),
  (8151,[921,776,834]),(8162,[933,776,768]),(8163,[933,776,769]),(8164,[929,787]),(8166,[933,834]),
  (8167,[933,776,834]),(8178,[8186,921]),(8179,[937,921]),(8180,[911,921]),(8182,[937,834]),(8183,[937,834,921]),
  (8188,[937,921]),(64256,[70,70]),(64257,[70,73]),(64258,[70,76]),(64259,[70,70,73]),(64260,[70,70,76]),
  (64261,[83,84]),(64262,[83,84]),(64275,[1348,1350]),(64276,[1348,1333]),(64277,[1348,1339]),(64278,[1358,1350]),
  (64279,[1348,1341])]

/-- Title case of the letters that are two in one, of the sharp s, and of the letter that begins with an apostrophe. -/
def toTitle : List (Nat × List Nat) := [
  (223,[83,115]),(329,[700,78]),(452,[453]),(454,[453]),(455,[456]),(457,[456]),(458,[459]),(460,[459]),(497,[498]),(499,[498])]

end QueryDesk.Text.Ranges
