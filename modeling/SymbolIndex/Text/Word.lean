import SymbolIndex.Text.CharSet

/-!
# Word characters

The characters that Unicode counts as parts of words: letters, marks, decimal digits, connectors and
joiners. A word ends between one of them and a character, or an end of the text, that is none.
-/
namespace SymbolIndex

/-- The characters that words are made of. -/
def wordChars : CharSet := .ofPacked "
  m197P401Pl10A0405M1U1fE4BE47010Hq31123106012101J1o21g41i51b1206e18i1101111108Q43TA5f24b317291I20
  Gw12a3Er140202j1IR4A5N167g21W4291I17212L1610332821238041142BA0102215412L16111111201441223073107F
  B218121L16111429121220F329961217212L1611142821227241142910G115321331101131323B4432132060E9GC121M
  1F2812137112112329G317121M19142812137152132912CC121o11214537429A5121H3N181026304510176921Dv15E19
  d1110141N101M2410161923W10N169B01010491Z14J1H1Z190v1f26j22b110502g11iA132610132e1132W1132610132E
  1u1132Y222W1FGr2253hJ2G1P5g23A7L9LBJCC1211Cp2304129X121A6u27g15b2AU1B4BAd124Bh14P69c1R4.11S2A69D
  08j12BKi239H8Cp3Ct1893m12A5g122G21c15rG252b125271010101U2q11610321633254C5216F1n11J0S0D0GCp1W1H0
  40291034601010131A235440He1jPp1su1a768Cb110502t170FN96161616161616161Vl10rE2PE14244r221221v2135g
  11z2HVm1FWG_j6W2iqLZ2j12i83RKo1191o3b182c32n2Ks140Jp1Cb2A96N301m12Z1CS3W2EA6U1s19D296M3e2O22F24A
  5252596161g11D6w311296ZzACM4m1ae8jB2f3c16C45B1C141011111h3X1gBI_12r1e1B4FGF31O2W141c4J97P401PBu2
  35252522Z1B1P1I111E2DY1w3b2q1e40Y4S3m1F0VVDT5g15T2Z14714g1z4296Z14Z14d18p1CA1E16111A1E16113p1Cs9
  9LA7O51f118b25201h111302MAM9UX2I11ALAP6Pc1t161W231157121S2240W1S3SZ171TPr1ALAIDHk3e2t1o1Do1Dd189
  6b1341Mw7f11131G5o1Y1A08W1VLg1KRM9c2VF9x170DO796q119438Z1209a2431C10Z1H1a163.1610131E197w1596317
  212L1611141921222060562634B910201b11910201317D1Tg25943Ub21089c5r128N5Y1W230B9c1u1796JSQ2E4966v5w
  1b3f2L72027111T1128C9c272j12711R.1808f230Ie2d37u2W1F9681i118F9OT2L1Df26111h13011188965111a111157
  96h149s7M9G1e134DAr20l2vSc3k3HZ6io2W3FlX1GLAwy35cIvr6v1cs1uH7U196k2196T24Bs193C99K5ImDi139c6_1W1
  O2Oi1g24u17GW2111B69rc7f1VX3o3zl8316111Y9F0T220E38hCae2g35C387931nY49cGj12M.G4358726U3q42xDq21c2
  112021231B10161W21327161R131410361pA2O1O1U1O1U1O1U1O1U1O172n1WGs14n180E0M41EmY1U65r661G2611145z1
  X10m3i13D2940XAUHv1sEf1s6g1b6U1L81W7613111E1a6B6f1h249cb131Q111020191310106040101012111020101010
  1011102316131310191G52141GqJP6P6Pcp29cW1_sf1W1ze42jq52mf7FjJYj2zGYl1gw45ff8capLl7"

def isWordChar (c : Char) : Bool :=
  if c.toNat < 128 then c.isAlphanum || c == '_' else wordChars.contains c

namespace Text

/-- Whether a word starts or stops between two characters; `none` is an end of the text. -/
def isWordBoundary (before after : Option Char) : Bool :=
  before.any isWordChar != after.any isWordChar

end Text
end SymbolIndex
