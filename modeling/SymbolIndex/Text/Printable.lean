import SymbolIndex.Text.CharSet

/-!
# Printable characters

Which characters can stand for themselves in a quoted text. Control, format, unassigned, private and
separator characters cannot, and neither can those that only extend the character before them. A space
is printable.
-/
namespace SymbolIndex

/-- The characters that are not printable. -/
def unprintable : CharSet := .ofPacked "
  0W1.2X1C0oIl381637010K0W76c50c11o113j110111118R36GAA10k1KG0b37152113W1110USv2A1Dh1872O3181216F0P
  410B4W1Fg1u1t1010474036A1T0208121M0701242102521201C2033O4106321M0702020233N4016A1301B109030M0702
  0524710221E23C617208121M07020521115212E2033IA106230422010222232C4102230321KL5308030N0G2124I30212
  3A6A0B030N0A05221102M3023A03DB030f11102430302330A3Q120I2O09011782576A13Bm102A87Da1201050O010A028
  115018A14VO1R01010E0a1H14115m18060Da1j13151121P142G3D02160F0e101411vB041701041f1041X1041701041F0
  v1041Z24T2Q5s2161WK0S2v26ICJ228IDD03Eq1116802A92A5A5B4A5v2651Y1014c29V34133206612g115Ai13Q5B2v11
  22u101810276CA5A5Er2m194280T8C1W1325u1011301Cm1724F2.14h11BA1C1640603114W6_1s8161c116180101010V1
  r10F0E160J1309GO7l1G21R0D2Y1z1i43wKLBKqu11vB224j101411u162EN8707070707070707W1.2X1Q0v2Bs6PG0f15G
  0s23b34h10.20s28m10jpS2t18yAJl1319W11m2167z6JH03040P153A5u17a29CND0c17PA1BU5m10232120D0B370P0f15
  212A308011A1W10p10122151101NH18A6161687070y13r302042A5azABN3n13WW2_d6kB1g3b17B5410O050102020gKVG
  FALZ10J04350d43z41V261616132707C21C0Q0J020F1EX1x3433j12u20D21k1j1Y4T2n1FR3a18U4c19U0b13Ef1.41A5a
  13a13e17q1AC0F07020B0F07022q1Bt98M98N60g109a26110i102211N0e279l1J024X12R4Rb1u13K1l1E4030T99696W2
  Vb15C8s12T1R4Q64B7l2f2s1p1Cp16g1BA5c17O72l6V0g12112F679c1e17MA9LI34b1SJN810s1E73U0211Bn1321204DP
  6A8a1418I7Z103Aq18108320G0KAI0S223602.1701040F0B5l103CA7208121M070205210104121221B7RA01110c10102
  E102210302c1u172210L0103Tm10251020111147Ab5l10254111RZ1p1720114AA5DIh10102725A5KRR2102318Nu5l181
  11Z3p2B81118020O050254038Ab281g17404Q19e1523881522k1C119Cf26As212101t2Y1DA590c1D1069T2W1O16111g2
  7020c1K18A56020b13201016A5i13Ar7J148F0a1722Nr21Eo1CxSb3l305Aa6ho2Z3CmX1G6Oxy34dIur6UB32Abs1vH6V0
  A3n20A5U619m16F9A070L4JlDw1b6x24P1Ph1h24u1AD_14D58sc7e1W1W3p3yl8407020Z9E1S311D47iCZe2h34D296A11
  11_w3z72qD5NEH.2q3x1s79d11y143L26U3z1KY221v3KBKBt28Pc4r20d2021112140C01070X20418070S040501270qA1
  a91oHs14n180E07pZ1V56a8.1n4j1971A32_9UHi13A41lES3Ar6U1B31_5V0302071582_6704020F0b619l1a2613A32mO
  a2h2z1X640R0201110A040101513101010302011101010101020114070404010A0H43050Hp12j8i13a3BF1F0F0b19k5t
  1TCi13962D6v4vU2H2D2w65C31EC3u17A5e17U1C32D9c1uA7E1D2B2v1013G1C3A6p40d3aW1Wtf1V.e41kq51nf7EkJXj2
  .GXl1hw44gf8byoR"

/-- Whether a character can stand for itself in a quoted text. -/
def isPrintable (c : Char) : Bool :=
  if 32 ≤ c.toNat && c.toNat < 127 then true else !unprintable.contains c

end SymbolIndex
