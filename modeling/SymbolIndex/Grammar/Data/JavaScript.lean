import SymbolIndex.Grammar.Packed

/-!
# The grammar of JavaScript

Its symbols, its roles and its packed tables.
-/
namespace SymbolIndex.Grammar

def javaScriptSymbols : List GrammarSymbol := [
  .hidden "end", .named "identifier", .named "hash_bang_line", .anonymous "export", .anonymous "*",
  .anonymous "default", .anonymous "as", .anonymous "\x7b", .anonymous ",", .anonymous "\x7d",
  .anonymous "import", .anonymous "from", .anonymous "with", .anonymous "var", .anonymous "let",
  .anonymous "const", .anonymous "else", .anonymous "if", .anonymous "switch", .anonymous "for",
  .anonymous "(", .anonymous ";", .anonymous ")", .anonymous "await", .anonymous "in",
  .anonymous "of", .anonymous "while", .anonymous "do", .anonymous "try", .anonymous "break",
  .anonymous "continue", .anonymous "debugger", .anonymous "return", .anonymous "throw",
  .anonymous ":", .anonymous "case", .anonymous "catch", .anonymous "finally", .anonymous "yield",
  .anonymous "=", .anonymous "[", .anonymous "]", .named "html_character_reference", .anonymous "<",
  .anonymous ">", .named "identifier", .anonymous ".", .anonymous "</", .anonymous "/>",
  .anonymous "\"", .anonymous "'", .named "string_fragment", .named "string_fragment",
  .anonymous "class", .anonymous "extends", .anonymous "async", .anonymous "function",
  .anonymous "=>", .named "optional_chain", .anonymous "new", .anonymous "using", .anonymous "+=",
  .anonymous "-=", .anonymous "*=", .anonymous "/=", .anonymous "%=", .anonymous "^=",
  .anonymous "&=", .anonymous "|=", .anonymous ">>=", .anonymous ">>>=", .anonymous "<<=",
  .anonymous "**=", .anonymous "&&=", .anonymous "||=", .anonymous "??=", .anonymous "...",
  .anonymous "&&", .anonymous "||", .anonymous ">>", .anonymous ">>>", .anonymous "<<",
  .anonymous "&", .anonymous "^", .anonymous "|", .anonymous "+", .anonymous "-", .anonymous "/",
  .anonymous "%", .anonymous "**", .anonymous "<=", .anonymous "==", .anonymous "===",
  .anonymous "!=", .anonymous "!==", .anonymous ">=", .anonymous "??", .anonymous "instanceof",
  .anonymous "!", .anonymous "~", .anonymous "typeof", .anonymous "void", .anonymous "delete",
  .anonymous "++", .anonymous "--", .named "string_fragment", .named "string_fragment",
  .named "escape_sequence", .named "comment", .anonymous "`", .anonymous "$\x7b", .anonymous "/",
  .named "regex_pattern", .named "regex_flags", .named "number",
  .named "private_property_identifier", .anonymous "target", .anonymous "meta", .named "this",
  .named "super", .named "true", .named "false", .named "null", .named "undefined", .anonymous "@",
  .anonymous "static", .anonymous "static get", .anonymous "get", .anonymous "set",
  .hidden "_automatic_semicolon", .named "string_fragment", .anonymous "?", .named "html_comment",
  .named "jsx_text", .named "program", .named "export_statement", .named "namespace_export",
  .named "export_clause", .named "export_specifier", .hidden "_module_export_name",
  .hidden "declaration", .named "import", .named "import_statement", .named "import_clause",
  .hidden "_from_clause", .named "namespace_import", .named "named_imports",
  .named "import_specifier", .named "import_attribute", .hidden "statement",
  .named "expression_statement", .named "variable_declaration", .named "lexical_declaration",
  .named "variable_declarator", .named "statement_block", .named "else_clause",
  .named "if_statement", .named "switch_statement", .named "for_statement",
  .named "for_in_statement", .hidden "_for_header", .named "while_statement", .named "do_statement",
  .named "try_statement", .named "with_statement", .named "break_statement",
  .named "continue_statement", .named "debugger_statement", .named "return_statement",
  .named "throw_statement", .named "empty_statement", .named "labeled_statement",
  .named "switch_body", .named "switch_case", .named "switch_default", .named "catch_clause",
  .named "finally_clause", .named "parenthesized_expression", .hidden "expression",
  .hidden "primary_expression", .named "yield_expression", .named "object", .named "object_pattern",
  .named "assignment_pattern", .named "object_assignment_pattern", .named "array",
  .named "array_pattern", .named "jsx_element", .named "jsx_expression",
  .named "jsx_opening_element", .named "member_expression", .named "jsx_namespace_name",
  .named "jsx_closing_element", .named "jsx_self_closing_element", .named "jsx_attribute",
  .named "string", .named "class", .named "class_declaration", .named "class_heritage",
  .named "function_expression", .named "function_declaration", .named "generator_function",
  .named "generator_function_declaration", .named "arrow_function", .named "call_expression",
  .named "new_expression", .named "await_expression", .named "member_expression",
  .named "subscript_expression", .named "assignment_expression",
  .hidden "_augmented_assignment_lhs", .named "augmented_assignment_expression",
  .hidden "_initializer", .hidden "_destructuring_pattern", .named "spread_element",
  .named "ternary_expression", .named "binary_expression", .named "unary_expression",
  .named "update_expression", .named "sequence_expression", .named "string",
  .named "template_string", .named "template_substitution", .named "regex", .named "meta_property",
  .named "arguments", .named "decorator", .named "member_expression", .named "call_expression",
  .named "class_body", .named "field_definition", .named "formal_parameters",
  .named "class_static_block", .hidden "pattern", .named "rest_pattern", .named "method_definition",
  .named "pair", .named "pair_pattern", .hidden "_property_name", .named "computed_property_name",
  .hidden "program_repeat1", .hidden "export_statement_repeat1", .hidden "export_clause_repeat1",
  .hidden "named_imports_repeat1", .hidden "variable_declaration_repeat1",
  .hidden "switch_body_repeat1", .hidden "object_repeat1", .hidden "object_pattern_repeat1",
  .hidden "array_repeat1", .hidden "array_pattern_repeat1", .hidden "jsx_element_repeat1",
  .hidden "jsx_opening_element_repeat1", .hidden "_jsx_string_repeat1",
  .hidden "_jsx_string_repeat2", .hidden "sequence_expression_repeat1", .hidden "string_repeat1",
  .hidden "string_repeat2", .hidden "template_string_repeat1", .hidden "class_body_repeat1",
  .hidden "formal_parameters_repeat1", .named "property_identifier", .named "statement_identifier",
  .named "shorthand_property_identifier", .named "shorthand_property_identifier_pattern"]

def javaScriptRoles : List String := [
  "decorator", "declaration", "name", "body", "constructor", "argument", "operator", "arguments",
  "function", "close_tag", "open_tag", "label", "left", "right", "parameter", "source", "object",
  "value", "kind", "condition", "consequence", "handler", "finalizer", "attribute", "member",
  "property", "parameters", "pattern", "optional_chain", "key", "alternative", "flags", "index",
  "alias", "initializer", "increment"]

def javaScriptTables : String := "
  c41a88Y4Z4a4b4l2i3n3c4A070123457133234402342032373135235236k30011001000011101a800120001310014100
  2510600027108000250061002910A0002001011021200011b82320B00112C00D20112320E0020c8020d80201001F1002
  320G1002200H1101I0002J10K2002320H1006320I11C11611D11H1102320J1002310L2002310M2020b81B100121001N0
  001O0001P00023202100232000102320Q100272041001R1002C00D2002320E0003C00610D20300a82G00P2002G00P203
  00a83G00S10P2003G00S10P2003720800S1002920A0002320Q0001F2101H201d82C00D2002T00H2003320200Q1001H10
  03U30J10K2006330I21C21621D21H2102310J3003310M30L2002N2121002N01N1102001P1002P00H1101O1102O01O110
  23302102012330E1002330Q2002330E1002330Q1003330210Q202012C10D3002C10D3002V30R1002W120G00021300010
  33300012200233000102X12020004330001210Q2003001P10H2102001P2002340Q3003340220Q3003U40J00K2003W130
  G00S1002001H300334000122004340001220Q30013202013C10620D3003C10620D3003350J30Y12003001P20H3103350
  230Q4004350001230Q4002330H1004I10C20630D4004360J30Z140Y12004360J30J40Y12003360J40Y12002340E20043
  60001240Q5005I10C20640D50H3104I10C20640D5005370J30J40Z150Y12004370J40Z150Y12004370J40J50Y1200538
  0J40J50Z160Y120qp1111012p5101112p5100012p5100112o6101112p5101010gH0112u630g1112o6100010eK0010pp1
  0010k50010p60010eE0012w4300110le10012u630g1010j70110mH0012w4200112w4300110u60010u60010vE0110l501
  10k50112r5200010yF0112w4200110ea10110q60010ka10010hc10010te10110.d10110_d10110p60110gH0110_20110
  wb10012w4400112k7104012W570e3112o5100010.80010_80010hF0010XG0112r530H010v60112v5200010X70110b301
  10am10110.40110z60010rr10110og10010Z70110Z70110iZ10110mK0110Yc10110Zc10110z20012n5300110Ye10110Z
  e10014110ga10110eK0110i20112h760W3012b7200012b730W2110k70112a630a1112i6209110j70112w4400112n5300
  010sE0112j6207010x30010zo10110t50110d60010i50010j50010v10010fK0110W30112_630d1010t50012r5200112a
  630Z1112a640Y2112a640j2112a650u2112d640d2112d650q2112f650q2112f660_2110.o10012b630Z1012b640Y2012
  b640j2012b650u2012e640d2012e650q2012g650q2012g660_2110o70010o70012d430D012d440o1012d450t2012k440
  o1012k450o1010p40010g70010a80010u10110vq10110k20112q5100112v5300112b7200112b730W2012h760W3112h63
  0G112h630f1112h630n1112h640Z2112h640b2112h640c2110di10110Y70010jg10012o5100110qQ0012r530H012v520
  0110v60110X30110Yi10110l20010z60010aA0010dE0010yI0110W40112l630h1112l630i1112l630j1112l630k1112m
  640h2112m650s2010pb10010ce10010v50110.e10110f80110a90112y6200112y6300010X60010.60112h750v2112h77
  0d3010f80010a90110_60010W70010p70110z50110yQ0110x60112x520B112x530m1112W6200112W630V112X630V112X
  640y1112X7200112X7300112X7400010w70110y60110a70110g80010Z60110Z60110s70110b80110W90110wA0110xQ01
  12W570e3110.80110_80010rY10010sY10112r5300112r5400112r540H010y70110y70010Y80010x80010tE0010x1011
  0er10112v5400112a6206112a640k2112d630b1112d640a2112f640a2112f650p2112i630l1112j632c1112w620A112z
  6200112z6300112_640g2112W7300010kX10010i30010w30010je10010ke10010lh10010nh10010oh10010ir10010P00
  12_630d1010w40010h80010b90010o80010i90010gF0012a630a1012i6209012j6207012q5100112w6208012a630Z101
  2a640Y2012a640j2012a650u2012d640d2012d650q2012f650q2012f660_2110k80110e90010tV0012l5206012l550c3
  012d4203012d4300012d440p1012d440i2012i4100012k430K012k440K012r4100012s4200012t4300012t4400012u43
  0N012u440N012x4200012y440u1012z430P012.460z2012.470a3012.470b3012.470Z3012.480g3012.480h3012.480
  i3012.490j3012_430Q012_440v1012X530R012Y540w1012Y550w1012Z5206012Z530S012Z530T012Z540x1012a530L0
  12b5200012b530U012c5200012c530U012d5200012e5200012e5300012f5300012g5100012h531E012i5200012i53000
  12m5206012b640Z1012b650Y2012b650j2012b660u2012e650d2012e660q2012g660q2012g670_2112k6200112v62080
  10q80010k90012y430O012l630h1012l630i1012l630j1012l630k1012m640h2012m650s2012h750v2012h770d3110q8
  0110k90010ha10010ac10010wE0010YF0012W550x2012W550y2012W560Y3012W570f3010ie10010jh10010kh10010mh1
  0010WH011020010gp10010.q10010iA0010mB0010zF0012v5300110Y60110gS0110v50110x70112d430D112d440o1112
  d450t2112k440o1112k450o1112b630Z1112b640Y2112b640j2112b650u2112e640d2112e650q2112g650q2112g660_2
  010v90010fA0010oB0010rE0011110w60010z50012X7200012X7300012X7400110G0110p70010a50010h50010wr10010
  xr10110l60010s70010z80010q90010r90010t90010rA0010oD0010kF0010YG0010w10010y10010xN0010wR0110y3011
  0yr10110bs10010ld10010.50110M0110_50112f7110010W60010t70110p80110j90012x520B012x530m1012W6200012
  W630V012X630V012X640y1110x50110u70112n630e1010v70110y50110h80110b90122p51010W30012r5300012r54000
  12r540H012v5400012a6206012a640k2012d630b1012d640a2012f640a2012f650p2012h630G012h630f1012h630n101
  2h640Z2012h640b2012h640c2012i630l1012j632c1012k6200012v6208012w620A012w6208012y6200012y6300012z6
  200012z6300012_640g2012W7300110u50110a60110q70110Z30112n630F010k80010e90110r70110h30110z70110y80
  112q5200112q5300112n640e2112n640f2112p630g1112t650r2112h740m2010zY10010l80010f90110zY10110o50110
  lS0110vW10110q40110m80110g90112g7200112Y810X1010xb10010ge10010n80010h90112y430O112g5100122k71040
  Q0010yc10110ri10110i80110c90110mS0112d4203112d4300112d440p1112d440i2112i4100112k430K112k440K112r
  4100112s4200112t4300112t4400112u430N112u440N112x4200112y440u1112z430P112.460z2112.470a3112.470b3
  112.470Z3112.480g3112.480h3112.480i3112.490j3112_430Q112_440v1112X530R112Y550w1112Z5206112Z530S1
  12Z530T112Z540x1112a530L112b5200112b530U112c5200112c530U112d5200112e5200112e5300112f5300112h531E
  112i5200112i5300112l5206112l550c3112m5206112b640Z1112b650Y2112b650j2112b660u2112e650d2112e660q21
  12g660q2112g670_2010ch10010un10010vn10010wn10010z90010qA0010mD0010fF0012Y7200110sY10110ua10110xp
  10110I0110j80110d9011030112Y540w1112s5200112s530I112w5200112Y7200112.7200010c60010l70010n70110p5
  0110b60110b70110.70110r80110s80110l90110m90110s90110u90112W550x2112W550y2112W560Y3112W570f3122p5
  1002f7110012h740m2012Y810X1110qV0110uW10110qe10110kS0010m50010bV0110j40110t20112s5300112s5400112
  s540I112w5300112w5400010gi10010_r10010ds10010zT0110pZ101104011060110pS0110uS0122p51012k7104010hA
  0010uE0010hK0110qd10110rd10110.20112h730s1112h750q2112h760_2012s5200110e40110Xo10110r50110qH0110
  uJ0110XK0110w20122p51012f7111112e7206112f7111112Y820X1010jr10010t60012Z730h1110r40110t80110m2011
  0zQ0122p51002g7200122p51010d60112Z730h1010_b10010Yf10010r50010lA0010ZF0010pF0010iM0012a7209012n7
  102012n720C110d30110zX10110rY10110.c10110_c10110f40110qh10110bj10110zn10110Yp10110Zp10110K0110k6
  0110qS0112v4105112y5200112y5300112q620t1112a7209112g720J112n7102112s720H122s720H2t720I112u720001
  0sa10010sb10010Zd10010r60012e7206012h730s1012h750q2012h760_2012Y820X1110z30110_30110v20112x62001
  12l7300112n720C010ja10010hp10010_q10010_90010cT0010pT0010aV0022p51000e40022p51010vW10022p51010d4
  0012s530I012w5200022f71100t60110gW10110aX10110k40110vp10110g60110h6011050112j4100112v420M122p510
  12g720J010oc10010me10010s50010fE0010aF0010bF0010iF0010nF0010wF0010ZG0010bG0010dG0010fG0010iG0010
  kG0022m72000k51022m72000eK1110aY10110ne10110Q0110f10110.N0110j20122r52002s5200122r530H2s530I122v
  52002w5200112.530h1112_5300112q7200112v7200112Z8200010iW10010kW10010fe10010ff10010d40010up10010w
  D0010_F0022f71110r60110uY10110qZ10110na10110xa10110eb10110ib10110kb10110ob10110.30110_e10110yf10
  110ji10110ak10110ql10110x40110go10110b50110w50110N0110wB0110eC0110fC0110uH0110oI0110wK0110dM0110
  WN0110hO0110eP0110p20110sS0112t530e1112u530q1112z5210112z531V112z541y1112Y6100112Y6104112Y630011
  2Y6304112Z6200112Z6300112s6200112.6300112c720.1112j730r1112x710W1010xY10010cZ10010eZ10010fZ10010
  gZ10010hZ10010ra10010za10010wb10010ad10010hi10010Xr10010n50010e60010j60010e70010W80010e80010v800
  10Z90010o90010w90010.90010gA0010xD0022f71100n70022m72000sE1022Y820X20ld11110eW10110bX10110yY1011
  0Ya10110ja10110Y40110wh10110t60110n70110jA0110uC0110_C0110WD0110ZD0110bD0110cD0110dD0110hD0110.D
  0110_D0110.E0110_E0110tH0110nI0110vK0110cM0110n20110.Q0110oS0112f4200112f4300112f4400112f4500112
  m420K122p51002k7104132p51012k71040W30112u530e1112k7100112o7200112p7200112s7200112t7200112u710001
  0eV0010vV0010wV0010yV0010vY10010wY10010ca10010da10010ga10010Xb10010Yb10010Zb10010ab10010he10010p
  i10010zj10010jp10010Xq10010Ws10010es10010i60010d70010_70010c80010u80010X90010n90010XA0010ZA0010u
  A0010xA0010nB0010rD0010qF0010mI0010sI0010uI0010.J0010YK0010dK0010bM0010ZO0010bT0010dT0010eT0010f
  T0010gT0010hT0010nT0010uT0010.T0010_T0010dV0012j530t1012j540X3012k5200012k530w2012y5200012y53000
  22f71110l70012m7200022Y820X20zT1110A0110kV0110uV0110wW10110dX10110nX10110qX10110tX10110wX10110bY
  10110k30110tY10110m30110n30110jZ10110zZ10110p30110.Z10110Wa10110Xa10110fa10110r30110oa10110pa101
  10qa10110ya10110t30110cb10110qb10110rb10110ub10110vb10110v30110zb10110Wc10110lc10110mc10110dd101
  10fd10110gd10110nd10110ud10110vd10110We10110Xe10110ae10110be10110Z40110b40110wf10110c40110ag1011
  0d40110g40110h40110i40110ki10110ni10110dj10110ej10110fj10110gj10110hj10110ij10110qj10110ck10110d
  k10110ek10110gk10110hk10110ik10110jk10110lk10110mk10110nk10110ok10110dl10110el10110fl10110kl1011
  0ll10110ml10110_l10110z40110Yo10110Zo10110ao10110bo10110co10110ho10110io10110jo10110ko10110lo101
  10mo10110no10110oo10110po10110qo10110ro10110to10110uo10110vo10110wo10110xo10110yo10110Z50110bp10
  110cp10110c50110aq10110dq10110gq10110Y10110hB0110b10110sB0110tB0110uB0110vB0110c10110zB0110.B011
  0WC0110XC0110cC0110dC0110jC0110e10110mC0110nC0110oC0110.C0110WE0110XE0110YE0110hE0110iE0110jE011
  0oE0110qE0110xE0110WF0110XF0110n10110q10110r10110uG0110t10110rH0110sH0110tI0110zJ0110W20110sK011
  0tK0110q20110x20110Y30112c4100112g4105112g430l2112l4100112p4105112p430l2112q4200112c710Y1112c720
  _1112c730n2112c730o2112c740.2112d7200112d7300112d7400112d7500112i730r1112m7200122m72000k51122m72
  000l51112s7100122s71002t7100112t7100112t720I122u71002v7100112v7100122w72000zX11112x720z1122_7200
  0.c11122W82000_c11122X82000qZ11122Y820X20pZ11010hV0010iV0010nV0010oV0010zV0010.V0010_V0010WW1001
  0XW10010YW10010ZW10010aW10010bW10010cW10010lW10010mW10010nW10010oW10010pW10010qW10010rW10010sW10
  010mX10010pX10010sX10010vX10010XZ10010uZ10010vZ10010xZ10010qa10010nc10010xc10010Xd10010cd10010hd
  10010id10010jd10010kd10010wd10010xd10010yd10010zd10010lf10010uf10010dg10010xg10010Zh10010bh10010
  lp10010zp10010Zr10010mr10010pr10010q50010s60010h70010m70010Z80010d80010Y90010x90010y90010W10010W
  A0010YA0010bA0010mA0010nA0010oA0010pA0010sA0010tA0010eB0010nD0010pD0010qD0010sD0010tD0010uD0010v
  D0010ZE0010aE0010cE0010gE0010cF0010eF0010jF0010oF0010xF0010WG0010aG0010cG0010eG0010gG0010jG0010l
  G0010jM0010XO0010cP0010WR0010yR0010XS0010aS0010cS0010eS0010vS0010wS0010xS0010yS0010zS0010.S0010_
  S0010WT0010XT0010YT0010ZT0010aT0010jT0010kT0010lT0010mT0010rT0010sT0010tT0010vT0010wT0010xT0010W
  U0010XU0010YU0010ZU0010cV0022r52002s5200022r530H2s530I022v52002w5200012z5210012z531V012z541y1012
  .530h1012_5300012Y6100012Y6104012Y6300012Y6304012Z6200012Z6300022q620t10f80022q620t10a90022m7200
  0kX11022m72000i31022m72000rY11022m72000sY11022m72000ha11022m72000w31022m72000ac11022m72000x31022
  m72000ie11022m72000je11022m72000ke11022m72000jh11022m72000kh11022m72000lh11022m72000mh11022m7200
  0nh11022m72000oh11022m72000zo11022m72000i51022m72000j51022m72000P1022m72000v91022m72000fA1022m72
  000oB1022m72000rE1022m72000v11022m72000fK1022w72000_b11012x710W1022x720z10zY11012y7200022y72000j
  d11012z7200022z72000kd11012_7200012W8200022Y820X20cT1022Y820X20pT1110a30110lV0110mV0110sV0110c30
  110dW10110fW10110hW10110jW10110e30110f30110xW10110yW10110zW10110.W10110_W10110WX10110cX10110eX10
  110fX10110gX10110hX10110iX10110xX10110.X10110WY10110YY10110eY10110fY10110nY10110oY10110pY10110qY
  10110.Y10110_Y10110WZ10110XZ10110YZ10110kZ10110lZ10110mZ10110nZ10110rZ10110sZ10110wZ10110xZ10110
  yZ10110Za10110aa10110ba10110ta10110wa10110bb10110fb10110hb10110lb10110C0110nb10110tb10110rc10110
  tc10110Yd10110ed10110hd10110id10110jd10110kd10110md10110od10110pd10110X40110ze10110Wf10110a40110
  jf10110rf10110Wg10110dg10110eg10110fh10110gh10110hh10110ih10110sh10110vh10110xh10110yh10110Wi101
  10Zi10110bi10110ci10110mi10110oi10110l40110ui10110wi10110zi10110m40110Xj10110Yj10110n40110nj1011
  0oj10110o40110tj10110.j10110Yk10110sk10110uk10110vk10110wk10110s40110zk10110t40110u40110tl10110v
  40110Wm10110Xm10110bm10110hm10110y40110qn10110_40110sn10110xn10110yn10110.n10110_n10110W50110Wo1
  0110do10110eo10110fo10110X50110Y50110so10110mp10110np10110op10110rp10110sp10110tp10110Yq10110Zq1
  0110bq10110d50110e50110mq10110nq10110f50110yq10110g50110s50110f60110j60110m60110n60110o60110c701
  10e70110f70110i70110W80110X80110e80110v80110w80110Z90110o90110p90110dA0110eA0110X10110kA0110Z101
  10a10110fB0110gB0110iB0110jB0110kB0110lB0110d10110hC0110iC0110kC0110lC0110qC0110wC0110xC0110zC01
  10XD0110YD0110yD0110zD0110kE0110lE0110mE0110nE0110l10110yE0110zE0110m10110o10110p10110s10110.G01
  10_G0110XH0110iH0110kH0110vH0110zH0110.H0110WI0110YI0110cI0110dI0110eI0110fI0110gI0110rI0110vI01
  10z10110.10110_10110tJ0110vJ0110ZK0110aK0110cK0110X20110kK0110Y20110Z20110.K0110_K0110aL0110nL01
  10tL0110uL0110vL0110wL0110gM0110.M0110_M0110XN0110bO0110gO0110iO011080110dP0110fP0110o20110r2011
  0wQ0110s20110_Q0110u20110jS0110nS0110rS0110tS0110y20110yT0110cU0110YV0110ZV0112c4000112c4200112e
  4300112h4100112l4300112n4300112o4200112o4300112o4400112o4500122v41050vk10112j530t1112j540X3112k5
  200112k530w2122p51002k7100122p51010t20122u530e12n630e1122u530q12n630F122u530q12n630e1122v53002l7
  300112c6200122f71100t60122f71100n70122m72000iZ11122m72000ga11122m72000Yc11122m72000Zc11122m72000
  le11122m72000.o11122m7200021122m72000wA1122m72000eK1122m72000i21122m72000z21122n720C0le11122o720
  00ZZ11122p72000aZ11122q72000uY11112r7200122r72000c41122r72000dq11122s72000mS1122t72000uS1122u720
  00Z31122v72000.21112w7200122w72000d31122x720z10h31122x720z10zY11122y72000jd11122z72000kd11122.72
  000w51122.72000w61112X8200122X82000.31122Y810X10kV1112Y820X2122Y820X20gW11122Y820X20aX11122Y820X
  20qd11122Y820X20rd11122Y820X20le11122Y820X20t81122Y820X20oS1122Z82000g31113js1010z30b21b21b21b21
  b21b21b21b21b21b21b21b21b21b21b21b21b21b21b21b21b21b21b21b21b21b21b21b21b21b21b21b21b21b21b21b21
  b21b21b21b21b21b22b21b22b21b22b21b23b21b21b21b21b21b21b21b21b21b21b21b21b21b21b21b21b21b21b21b21
  b21b21b21b21b21b21b21b21b21b21b21b21b21b21b21b21b21b21b21b21b21b21b21b21b21b21b21b21b21b21b21b23
  b21sB1b21b21b23b21b21b21b21b21b21b21b21b21b21b21b21b21b21b21b21b21b2111b2120y30on11rB1zg11oB4wA3
  a72sA1g61qB1h62tA1f71rA1X21b62u23uA1j71g71d71e71h71b71c75w22e23c26_11W23jA2pB1kA3q21v2PC1C1r2BQ1
  Q1C1C1C1P1P411z15d21e33A1A1A1A1A1x21G1o22o21o2412_o11pB5pB1bc11pB7D1pB1qB1qB2pB2pB1pB1pB1pB2pB1p
  B1pB1pB1pB1pB1pB1pB1pB1pB1pB6lF1zN1wJ1gK1eK1Wp13eK1Wp11gK2lX14gK3eK1qB2eK1qB1eK1qB1eK1eK1xJ1gK1l
  F1lF1gK1tW11gK2Wp12gK1gK1gK1gK1ph11eK1eK2eK1eK2pV5Xp19D1ia1221Z1001.P101oP1oI4YB1bm15zPQbNFxPLyE
  c1aN1XNAyP1nI1xL1xL60FFX1ap12oe12ap1Rap11pe16.NEoe11pe11pe11oe11qe11qe11F1iT5re11se122119gm12213
  9im1i4Hx2H221E1xb12Yb16.X15lb1f1db1c2gb12eS1eSLJX2gg1Lgg11gg14J6hg122171yb12ab1Bmb1f1eb1c2hb12fS
  1fS126_10xY11te1101qe12fT2mo12xY11_d12ge11Xe11se11Ye12he11ie11de11qo11no12ne13je11pe11ke11ee11fe
  11le11We11ae12fT3ue12po13ho16io11jo13Ze12re11be13ce11oe1P.M1.M1me1ByY11yY11.M1.M1.M1zY11zY15go15
  oo11lo13_M1_M1_M1_M1_M1ve11ko11WQ2WQ1WQ60F7x27127800203aT4_n1QaTZ30F9x2912155bT4Wo1QbTo37x271215
  5YT4zn1QYTo3Bx2B12235ZT4.n1QZT12B50gY120a40FEx2E1212r47x2712110pn11212009mk112139nk1i4Fx2F12219j
  m112139lm1i4Hx2H12219rl112139ql1i4Jx2J12219mn112139nn1i4Lx2L12139vk1i4Ox2O12319xk1121I1kH2hH4sH2
  03eH2jH3fH2dH7gHRaF2iH1bFb2q72q71q7Lfp1x201Xc1122390i4yBx201211r4_B1211r4yA1211r4ZC1211r4aC1211r
  4rC1211r4yC1211r4aD1211r4eD1211r4fD1211r4gD1211r4iD1211r4jD1211r4kD1211r4lD12G1r4yB1211r4_B1211r
  4dh11211r4ZC1211r4aC1211r4rC1211r4yC1211r4aD1211r4eD1211r4fD1211r4gD1211r4iD1211r4jD1211r4kD1211
  r4lD330i31s42E1Xb13n51.31.31Y14E6d11.31.31v31u7A.34x32p41.32kP1u72u73Z11a13W12r41X12.31u31w3H.31
  .31u71.31.31u71.31u71D1D1v11.31.31.31u71.31u71.31.31.31u71D1b11D1D1D1V1V411U5c11y337171717171t41
  G1E2E1E3.3119sd1a1pE1zI1vG1hH1gH1fr13gH1fr11hH2oX14hH3gH3gH2gH2gH1gH1wG1hH1pE1pE1hH1XX11hH2fr12h
  H1hH1hH1hH2gH1gH2gH1gH2pV5xq1Ajc1341l21lA2O1Wb13c63h44O6X2201u2B04w22e2102rR6_11W23_42zA1W53q21v
  2PC1C1r2BC1Q1C1C1C1P1P5z15d21e33A1A1A1A1A1x22O2O1O1.3Cbc1a1lF1iK1wJ1gK1eK1Wp13eK1Wp11gK2lX14gK3e
  K3eK2eK2eK1eK1xJ1gK1lF1lF1gK1tW11gK2Wp12gK1gK1gK1gK2eK1eK2eK1eK7Xp1Ade1341Z11gC2l11bb1505l19aC2u
  7DiCHeC4.B1dCPj11j11WCBj11e61j11j11j11Z61Z6BnC8kC2l12l11l1n1tF1yN4zr14zr1LtF1tF2ZX13zr1I.r1333d1
  1_A2S1Zb13j410105S70101n6Fq62z310E.A4l71o6PI1ICI1l21I1I1I1i21i2Br68vA2S2S1Sn1bE1mQ4wq14wq1LbE1bE
  2YX13wq1Igr1331Z11hC2m11cb1Am19bC2u7904jCHfC4_B1cCPk11k11XCBk11f61k11k11k11a61a6BoC8lC2m12m11m1n
  1mG1xR4is14is1LmG1mG2jX13is1Ics1340v20T1K2K1_21K2T1R1T1K2K1K1K1K1K1K1K1K1T1T2K1_22K1K1K1K1K1K1K1
  K2K3K1nJ1T3K1_22_23T1T3K2K1K2R1K1KHR1R1_21R1R1_21R1_21K1K1K1R1R1R1_21R1_21R1R1R1_21K1T1K1K1K1T1T
  411T5T1T3K1K1K1K1K1K1T1K2K1K1hQ2R11341u20W41g22g21g21g22W41W41W41g22g21g21g21g21g21g21g21g21W41W
  42g21g21g21g21g21g21g21g21g21g21g22g23g2101W43g21g22g23W41W43g22g21g22W41g21g2HW41W41g21W41W41g2
  1W41g21g21g21g21W41W41W41g21W41g21W41W41W41g21g21W41g21g21g21W41W45W45W41W43g21g21g21g21g21g21W4
  1g22g21g21W42W4341t20X41h22h21h21h22X41X41X41h22h21h21h21h21h21h21h21h21X41X42h21h21h21h21h21h21
  h21h21h21h21h22h23h22X43h21h22h23X41X43h22h21h22X41h21h2HX41X41h21X41X41h21X41h21h21h21h21X41X41
  X41h21X41h21X41X41X41h21h21X41h21h21h21X41X45X45X41X43h21h21h21h21h21h21X41h22h21h21X42X4341t20L
  1F2F1F1F2L1L1L1F2F1F1F1F1F1F1F1F1L1L2F1F1F1F1F1F1F1F1F1F1F2F3F2L3F1F2F3L1L3F2F1F2L1F1FHL1L1F1L1L
  1F1L1F1F1F1F1L1L1L1F1L1F1L1L1L1F1F1L1F1F1F1L1L5L5L1L3F1F1F1F1F1F1L1F2F1F1L2L3411X4mm1345S4K4TGK1
  KE05K2KCTJT1T1K1T1T1K1T1K4T1T1T1K1T1K1T1T1T1KW1aY12T341t20m21f12f11f11f12m21m21m21f12f11f11f11f1
  1f11f11f11f11m21m22f11f11f11f11f11f11f11f11f11f11f12f13f12m23f11f12f13m21m23f12f11f12m21f11f1Hm2
  1m21f11m21m21f11m21f11f11f11f11m21m21m21f11m21f11m21m21m21f11f11m21f11f11f11m21m25m25m21m23f11f1
  1f11f11f11f11m21f12f11f11m22m2341t20gB1f32f31w71f32gB1W31gB1f32f31f31f31f31f31f31f31f31gB1gB2f31
  w7101f31f31f31f31f31f31f31f32f33f32gB3f31w72w73gB1gB3f32f31f32W31f31f3HW31W31w71W31W31w71W31w71f
  31f31f31W31W31W31w71W31w71W31W31W31w71f31gB1f31f31f31gB1gB5gB5gB1gB3f31f31f31f31f31f31gB1f32f31f
  31iQ2W3341s20hB1g32g31x71g32hB1X31hB1g32g31g31g31g31g31g31g31g31hB1hB2g31x72g31g31g31g31g31g31g3
  1g32g33g32hB3g31x72x73hB1hB3g32g31g32X31g31g3HX31X31x71X31X31x71X31x71g31g31g31X31X31X31x71X31x7
  1X31X31X31x71g31hB1g31g31g31hB1hB5hB5hB1hB3g31g31g31g31g31g31hB1g32g31g31jQ2X3341s20kB1j32j31.71
  j32kB1a31kB1j32j31j31j31j31j31j31j31j31kB1kB2j31.72j31j31j31j31j31j31j31j32j33j32kB3j31.72.73kB1
  kB3j32j31j32a31j31j3Ha31a31.71a31a31.71a31.71j31j31j31a31a31a31.71a31.71a31a31a31.71j31kB1j31j31
  j31kB1kB5kB5kB1kB3j31j31j31j31j31j31kB1j32j31j31kQ2a3341s20iB1h32h31y71h32iB1Y31iB1h32h31h31h31h
  31h31h31h31h31iB1iB2h31y72h31h31h31h31h31h31h31h32h33h32iB3h31y72y73iB1iB3h32h31h32Y31h31h3HY31Y
  31y71Y31Y31y71Y31y71h31h31h31Y31Y31Y31y71Y31y71Y31Y31Y31y71h31iB1h31h31h31iB1iB5iB5iB1iB3h31h31h
  31h31h31h31iB1h32h31h31lQ2Y3341s20lB1k32k31_71k32lB1b31lB1k32k31k31k31k31k31k31k31k31lB1lB2k31_7
  2k31k31k31k31k31k31k31k32k33k32lB3k31_72_73lB1lB3k32k31k32b31k31k3Hb31b31_71b31b31_71b31_71k31k3
  1k31b31b31b31_71b31_71b31b31b31_71k31lB1k31k31k31lB1lB5lB5lB1lB3k31k31k31k31k31k31lB1k32k31k31mQ
  2b3341s20mB1l32l31W81l32mB1c31mB1l32l31l31l31l31l31l31l31l31mB1mB2l31W82l31l31l31l31l31l31l31l32
  l33l32mB3l31W82W83mB1mB3l32l31l32c31l31l3Hc31c31W81c31c31W81c31W81l31l31l31c31c31c31W81c31W81c31
  c31c31W81l31mB1l31l31l31mB1mB5mB5mB1mB3l31l31l31l31l31l31mB1l32l31l31nQ2c3341s20jB1i32i31z71i32j
  B1Z31jB1i32i31i31i31i31i31i31i31i31jB1jB2i31z72i31i31i31i31i31i31i31i32i33i32jB3i31z72z73jB1jB3i
  32i31i32Z31i31i3HZ31Z31z71Z31Z31z71Z31z71i31i31i31Z31Z31Z31z71Z31z71Z31Z31Z31z71i31jB1i31i31i31j
  B1jB5jB5jB1jB3i31i31i31i31i31i31jB1i32i31i31oQ2Z3341s20nB1m32m31X81m32nB1d31nB1m32m31m31m31m31m3
  1m31m31m31nB1nB2m31X82m31m31m31m31m31m31m31m32m33m32nB3m31X82X83nB1nB3m32m31m32d31m31m3Hd31d31X8
  1d31d31X81d31X81m31m31m31d31d31d31X81d31X81d31d31d31X81m31nB1m31m31m31nB1nB5nB5nB1nB3m31m31m31m3
  1m31m31nB1m32m31m31pQ2d312Kt11fJ2p6103j41qL105p6701020A06z31ZY12e110209eJ30IyE101010101010101040
  1010101010101010101b1PgJ2p62p61p630l1kO4la11ve13la1LmF1mF5la11we1Jkc11ma1Exe11ye11211o5lO1214f1t
  l1f4hPa1lg1Y1mg11211f1em11211f1xm11211f1.m11211f1Xn112Qi14040104g61qN1h66030Jc210207jA2hS1kA20J0
  10101010101010401010101010101010101QV0209xBBqB1qBQrQJqB3qB2qBd1qc11212i4vCc1tQ1224r1aF2iS1bFv5ee
  11212i4vCc1tQ125f11hK2mA4ZK1jJ6mA9n6Fq62YK1jg1EgK4l71o6GWI9I1ICl21l21I1I1I1i21i2Br68jK2mA2mA1mAn
  1bE1iS4yb11kg13yb1LrF1rF2YX13yb110Hgr12td1F01ng1126X11kS2iK4zQ105nR1jS1oR6b6JyQ10EgSL0l1sS2iK2iK
  1iKNj31j3Ij37vF1mO4if1103if1LvF1vF5if1105wp1E010E01012788YZ1X1YZ1f4nO5qi1Vmf1Jnf1F010128I1Zc12tM
  4dn11jJ6tMQZn11pUEpb1LWIl1jc12tM2tM1tMo1_RT.F1.F60Y101244f1pUk4ve1o1kc1Gye11245t4l31l3Il38pQf1hs
  1124980EeQJ0Z1WIc3jO5ue1V05ep1Eic112358ZZ1X1ZZ1k4qi1o1nf1G01222o5fQf1hr1122580EeQJ0k4ue1o1ic1122
  P1s42E4n51fE6E8pm1Ip4Fr4LzKl1t42E2E1Eo1pO4fr1103fr1LpE1pE5fr11sf150E010Etf11223MhVX5rj1o1Xg11226
  8iREiRJiRf4nOa1mf1Y101221Mri11244Myl1y4iPa1vg1Y1wg11214Mgf1y4gQa1Xh1Y1Yh11217801ug1D0y4sOa1_p15_
  p1T01295M0y4sQ5cj1a10Ezf11253M0X5cj1o1zf11261M012449vg1f5kPa1br15br115MHD01O106YX1W1_42zA1W5f2YX
  1B0B010Q_NJ03020Hzh1Mde1122790Cb6t10.2o38uOa105eq11213g5q38.Of1lq11213g5s38nQf1Zs11213g5u38oQf1a
  s1127M1ac12rN4zQ6ba11zb11ca1PyQFqb1L0l1kc12rN2rN1rNn1hG5eh1103eh1LhG1hG5eh1K0101225L01ok1q408zOf
  1kq11213Mqk1y4WPf1pq11213Mrk1y4XPf1qq11213Myk1y4bPf1uq11213Mml1y4iQf1sr11213Mnl1y4jQf1tr11213Mol
  1y4kQf1ur11213Mpl1y4lQf1vr112E4L0i30n1WOf1.h1421j11Wc12pMBpM9n6Fq65e13zR9jb15o6PI1ICl21l21I1I1I1
  i21i2Br68qS2pM2pM1pMn1dF1hS1wI1hH2wq14wq11hH2oX14hHCxI1hH1dF1dF1hH1YX11hH2wq12hH1hH1hH1hH1012247
  ZJp4qKOrKf101243M0y4gPf1zq11212o5oOf1yp11232w4XLOYL1222o5rOf1.p11222w4qLOrL1212w4xLOyL1212w4.LO_
  L1212w4WMOXM1252o5vOf1fq11212o5wOf1hq11212o5xOf1iq11212o5yOf1jq11212o5_Of1oq11212o5YPf1rq11212o5
  ZPf1sq11212o5aPf1tq112147hMp4pHO_If101212w4_HOYJ1212w4aIOmJ1212w4hIOnJ1212w4jIOoJ1212w4kIOpJ42Y1
  N1.b12oM4n5601oM10Pp46nP9ib14u3W2vA2oM2oM1oMn1bE2sG3wq14wq1JtG2bE1bE5wq1Ixq1121G1_A2S4aJ7SQz3609
  .A4l7Y2S2S1SQpHOnP1vGQwGQgr11212w4_HOqP1212w4aIOYQ1212w4hIOZQ1212w4jIOaQ1212w4kIObQ42167j4d1nPi3
  0OiS1sGQtG12VW11gC2l1Bl19aCFiCHeC4.B1dCPj11j11WCBe61e61j11j11j11Z61Z6BnC8kC2l12l11l1n1tF1ZN4zr14
  zr1LtF1tF2ZX13zr1I.r112G2o5hQf1or11222w4XLOcN1222o5jPf1ar11222w4qLOqN1212w4xLOrN1212w4.LOsN1212w
  4WMOtN1252o5lPf1dr142f1A1Xc12rMBrMf1nb14.BSWCc1rM2rM1rMd3.r112f3U403aJH010Ie11020C0J010101010101
  010401010101010101010101f6X10NpHOYR1212w4_HObR1212w4aIOpR1212w4hIOqR1212w4jIOrR1212w4kIOsR42HA1b
  c12uMBuMf1rb14_BSXCc1uM2uM1uMd3cs112o12o5yJf1012JH1cc12vMBvMW109sb1a2lc12vM2vM1vMn1nG2vG3kp14kp1
  JwG2nG1nG5kp11221o5_J1211o5WK1211o5pK540k24mM1qO2WN161tJ4pK1mH1mH5dJ1632AgF5zH163212267wK2xK1tK1
  mC1635151515151515151515151515151522121212121212121212121212161216121616121666164116FG5626114rh1
  1cc13rBBqB1qBj1qB3qB2qBOpVFdc15Zf11af112FH1Yc12sM4j47sMQz3Fob1a2ic12sM2sM1sMo1YO4sc14sc1LuF1uF5s
  c160126G1_b12qM4ZK7qMQYKFkb1a2hc12qM2qM1qMn1bE5.b14.b1LsF1sF5.b11241o5uK12S37j4p40OzR1221o5WL121
  1o5ZL1231o5.R1221o5bL1211o5qO1211o5cL1211o5dL1211o5eL1211o5fL1211o5gL1211o5hL1211o5iL1211o5jL121
  1o5kL1211o5lL1211o5pL1211o5aO12a12o5_Rf101221o5cO1211o5dO1211o5tO1241o5eO1221o5ZM1211o5aM1231o5Y
  O1211o5uQ1211o5vQ1241o5hM1221o5sQ1211o5yG1211o5zG1211o5.I1211o5WJ1211o5XJ1211o5ZJ1211o5aJ1211o5b
  K1211o5bJ1211o5cJ1211o5dJ1211o5eJ1211o5fJ1211o5gJ1211o5hJ1211o5iJ1211o5jJ1211o5kJ1211o5lJ12y137j
  4p40OWS1221o5qJ1211o5rJ1211o5sJ1211o5xG54w129sJj7pg112g237c6p40OfO12r11o5yG1211o5zG1211o5mP1211o
  5oP1211o5pP1211o5rP1211o5sP1211o5tP1211o5uP1211o5vP1211o5wP1211o5xP1211o5yP1211o5zP1211o5.P1211o
  5_P1211o5WQ1211o5XQ1211o5cQ1211o5dQ1211o5eQ1211o5xG54O19rJ12t2E1dc12wMBwMf1tb1a2mc12wM2wM1wMn1oG
  5Yr14Yr1LoG1oG5Yr112P1o5WK1211o5YN1211o5aN1211o5bN1211o5dN1281o5YS1221o5eN1211o5fN1211o5gN1211o5
  hN1211o5iN1211o5jN1211o5kN1211o5lN1211o5mN1211o5nN1211o5oN1211o5pN12j11o5ZS1221o5uN1211o5vN1211o
  5wN12NE1ec12xMBxMf1ub1a2nc12xM2xM1xMn1pG5lr14lr1LpG1pG5lr112I1o5bS1231o5yJ1211o5_J12v11o5yG1211o
  5zG1211o5XR1211o5ZR1211o5aR1211o5cR1211o5dR1211o5eR1211o5fR1211o5gR1211o5hR1211o5iR1211o5jR1211o
  5kR1211o5lR1211o5mR1211o5nR1211o5oR1211o5tR1211o5uR1211o5vR1211o5xG12QE1gc12zMBzMf1wb1a2pc12zM2z
  M1zMn1rG5gs14gs1LrG1rG5gs112Q1o5fS122E1fc12yMByMf1vb1a2oc12yM2yM1yMn1qG5Ys14Ys1LqG1qG5Ys11221o5d
  S54s1690B6EYN5rIl601054f4b11mP2.I1WM1020601.I105bRKbK623Z21a2302.I1lMf12Hf41f4901.I2.L1.L801030B
  010j103020Idi1605ip17di11di12054129sJj7pg154119rJ54425an1TZN544A1B2BBB6dJZ1sI10b2B2a81a8d3054144
  2p1Be2B1B54229sJj7pg154229sJj7pg154219rJ54219rJ531S1wL2yA665yA6fD26C65iL16165630105yA1hF1tIv1010
  AyA2yA1yA10x20BWr1701070105311d1.H120Y20iG1a92a92a92iG2iG1a92a91a91a91a91a91a91a91a91iG1iG2a93a9
  1a91a91a91a91a91a91a92a91ra11xR1a92iG3iG6iG1iG3a92a91a93a91a9Pa91a91a9BiG1iG1a91a91a91iG1iG411iG
  5iG1iG3a91a91a91a91a91a91iG1a92a91a941h1vA1bC15c8U40K010BF1F6L1020C0J010101010101010401010101010
  101010101LVpk12015c8U40K010BK1K6T1020C0J010101010101010401010101010101010101TVhQ20544G1vL2xA605x
  A80CYN5rI20ExA1lM1mCa2xA2xA1xA16c3ip1541L1uL204qI2tJ506dJEgF5zH1uIF010b202010Pgc1Tja14ja1Rja1I0F
  Zf11af153678vJ1vJC01vJC05sN2vJ543396P0MmN1261X4012h8U40K010Bf11f16m21020C0J010101010101010401010
  101010101010101m2V020534E1zJ2i75xJ1xJ5i78xJHeT2xJEi72_Ea2i72i71i7d3kr15441d1.H53258aL1aLDaLH.H2a
  L54829sJj7pg154119rJ54B2Y1ZNMwR545C1_R2_I605_IB2EaSG_I2bOa2_I2_I1_Id3Xs15411d1.H53C58kM1kMD0HiL2
  kM53168610C63XM1oNG012J_10jG1b92b92b92jG2jG1b92b91b91b91b91b91b91b91b91jG1jG2b93b91b91b91b91b91b
  91b91b92b9102b92jG3jG6jG1jG3b92b91b93b91b9Pb91b91b9BjG1jG1b91b91b91jG1jG5jG5jG1jG3b91b91b91b91b9
  1b91jG1b92b91b9l101tC120_10fF1n92n92n92fF2fF1n92n91n91n91n91n91n91n91n91fF1fF1fF1n93n91n91n91n91
  n91n91n91n92n93n92fF3fF6fF1fF3n92n91n93n91n9Pn91n91n9BfF1fF1n91n91n91fF1fF411fF5fF1fF3n91n91n91n
  91n91n91fF1n92n91n94154I280Q0122.10eF1YA2YA2YA2eF2eF1YA2YA1YA1YA1YA1fb11YA1YA1YA1eF1eF101YA3YA1Y
  A1YA1YA1YA1YA1YA1YA2YA3YA2eF3eF6eF1eF3YA2YA1YA3YA1YAPYA1YA1YABeF1eF1YA1YA1YA1eF1eF5eF5eF1eF3YA1Y
  A1YA1YA1YA1YA1eF1YA2YA1YARpC15v8R4040G0JgB1020C0J010101010101010401010101010101010101gBX10151z10
  tH1Y92Y92Y92tH2tH1Y92Y91Y91Y91Y91Y91Y91Y91Y91tH1lX12Y93Y91Y91Y91Y91Y91Y91Y91Y92Y93Y92tH3tH6tH1tH
  3Y92Y91Y93Y91Y9PY91Y91Y9BtH1tH1Y91Y91Y91tH1tH5tH5tH1tH3Y91Y91Y91Y91Y91Y91tH1Y92Y91Y91lX1121.10yG
  1b82b82b82yG2yG1b82b81b81b81b81b81b81b81b81yG1yG2b83b81b81b81b81b81b81b81b82b82b81b82yG3yG6yG1yG
  3b82b81b83b81b8Pb81b81b8ByG1yG1b81b81b81yG1yG5yG5yG1yG3b81b81b81b81b81b81yG1b82b81b81015x8R4040G
  0JhB1020C0J010101010101010401010101010101010101hBX1015x8R4040G0JkB1020C0J01010101010101040101010
  1010101010101kBX1015x8R4040G0JiB1020C0J010101010101010401010101010101010101iBX1015x8R4040G0JlB10
  20C0J010101010101010401010101010101010101lBX1015x8R4040G0JmB1020C0J01010101010101040101010101010
  1010101mBX1015x8R4040G0JjB1020C0J010101010101010401010101010101010101jBX1015x8R4040G0JnB1020C0J0
  10101010101010401010101010101010101nBX10128z10zG1c82c82c82zG2zG1c82c81c81c81c81c81c81c81c81zG1zG
  2c83c81c81c81c81c81c81c81c82c82c81c82zG3zG6zG1zG3c82c81c83c81c8Pc81c81c8BzG1zG1c81c81c81zG1zG5zG
  5zG1zG3c81c81c81c81c81c81zG1c82c81c853T38xJ10D015h9S4040G010IW41020C0J01010101010101040101010101
  0101010101W4X1015h9S4040G010IX41020C0J010101010101010401010101010101010101X4X10151z10n21Y22Y22Y2
  2n22n21Y22Y21Y21Y21Y21Y21Y21Y21Y21n21n22Y23Y21Y21Y21Y21Y21Y21Y21Y22Y23Y22n23n26n21n23Y22Y21Y23Y2
  1Y2PY21Y21Y2Bn21n21Y21Y21Y21n21n25n25n21n23Y21Y21Y21Y21Y21Y21n21Y22Y21Y21n215V480S010y2L15b1480S
  010y2uk115W1480S010y2m21531X4wk153V6761010D0C67054M1u1wR54V690B6EYN5rIl6010124z10tF1k82k82k82tF2
  tF1k82k81k81k81k81k81k81k81k81tF1tF2k83k81k81k81k81k81k81k81k82k83k82tF3tF6tF1tF3k82k81k83k81k8P
  k81k81k8BtF1tF1k81k81k81tF1tF5tF5tF1tF3k81k81k81k81k81k81tF1k82k81k810121y10qF1h82h82h82qF2qF1h8
  2h81h81h81h81h81h81h81h81qF1qF2h83h81h81h81h81h81h81h81h82h83h82qF3qF6qF1qF3h82h81h83h81h8Ph81h8
  1h8BqF1qF1h81h81h81qF1qF5qF5qF1qF3h81h81h81h81h81h81qF1h82h81h8121y10mF1d82d82d82mF2mF1d82d81d81
  d81d81d81d81d81d81mF1mF2d83d81d81d81d81d81d81d81d82d83d82mF3mF6mF1mF3d82d81d83d81d8Pd81d81d8BmF1
  mF1d81d81d81mF1mF5mF5mF1mF3d81d81d81d81d81d81mF1d82d81d8121y10nG1f92f92f92nG2nG1f92f91f91f91f91f
  91f91f91f91nG1nG2f93f91f91f91f91f91f91f91f92f93f92nG3nG6nG1nG3f92f91f93f91f9Pf91f91f9BnG1nG1f91f
  91f91nG1nG5nG5nG1nG3f91f91f91f91f91f91nG1f92f91f9121y10pG1h92h92h92pG2pG1h92h91h91h91h91h91h91h9
  1h91pG1pG2h93h91h91h91h91h91h91h91h92h93h92pG3pG6pG1pG3h92h91h93h91h9Ph91h91h9BpG1pG1h91h91h91pG
  1pG5pG5pG1pG3h91h91h91h91h91h91pG1h92h91h9121y10rG1j92j92j92rG2rG1j92j91j91j91j91j91j91j91j91rG1
  rG2j93j91j91j91j91j91j91j91j92j93j92rG3rG6rG1rG3j92j91j93j91j9Pj91j91j9BrG1rG1j91j91j91rG1rG5rG5
  rG1rG3j91j91j91j91j91j91rG1j92j91j9121y10sG1k92k92k92sG2sG1k92k91k91k91k91k91k91k91k91sG1sG2k93k
  91k91k91k91k91k91k91k92k93k92sG3sG6sG1sG3k92k91k93k91k9Pk91k91k9BsG1sG1k91k91k91sG1sG5sG5sG1sG3k
  91k91k91k91k91k91sG1k92k91k9121y10uF1l82l82l82uF2uF1l82l81l81l81l81l81l81l81l81uF1uF2l83l81l81l8
  1l81l81l81l81l82l83l82uF3uF6uF1uF3l82l81l83l81l8Pl81l81l8BuF1uF1l81l81l81uF1uF5uF5uF1uF3l81l81l8
  1l81l81l81uF1l82l81l8121y10bB1p32p32p32bB2bB1p32p31p31p31p31p31p31p31p31bB1bB2p33p31p31p31p31p31
  p31p31p32p33p32bB3bB6bB1bB3p32p31p33p31p3Pp31p31p3BbB1bB1p31p31p31bB1bB5bB5bB1bB3p31p31p31p31p31
  p31bB1p32p31p3121y10vG1o92o92o92vG2vG1o92o91o91o91o91o91o91o91o91vG1vG2o93o91o91o91o91o91o91o91o
  92o93o92vG3vG6vG1vG3o92o91o93o91o9Po91o91o9BvG1vG1o91o91o91vG1vG5vG5vG1vG3o91o91o91o91o91o91vG1o
  92o91o9121y10nF1e82e82e82nF2nF1e82e81e81e81e81e81e81e81e81nF1nF2e83e81e81e81e81e81e81e81e82e83e8
  2nF3nF6nF1nF3e82e81e83e81e8Pe81e81e8BnF1nF1e81e81e81nF1nF5nF5nF1nF3e81e81e81e81e81e81nF1e82e81e8
  121y10rF1i82i82i82rF2rF1i82i81i81i81i81i81i81i81i81rF1rF2i83i81i81i81i81i81i81i81i82i83i82rF3rF6
  rF1rF3i82i81i83i81i8Pi81i81i8BrF1rF1i81i81i81rF1rF5rF5rF1rF3i81i81i81i81i81i81rF1i82i81i8121y10m
  G1e92e92e92mG2mG1e92e91e91e91e91e91e91e91e91mG1mG2e93e91e91e91e91e91e91e91e92e93e92mG3mG6mG1mG3e
  92e91e93e91e9Pe91e91e9BmG1mG1e91e91e91mG1mG5mG5mG1mG3e91e91e91e91e91e91mG1e92e91e9121y10vF1m82m8
  2m82vF2vF1m82m81m81m81m81m81m81m81m81vF1vF2m83m81m81m81m81m81m81m81m82m83m82vF3vF6vF1vF3m82m81m8
  3m81m8Pm81m81m8BvF1vF1m81m81m81vF1vF5vF5vF1vF3m81m81m81m81m81m81vF1m82m81m8121y10xF1o82o82o82xF2
  xF1o82o81o81o81o81o81o81o81o81xF1xF2o83o81o81o81o81o81o81o81o82o83o82xF3xF6xF1xF3o82o81o83o81o8P
  o81o81o8BxF1xF1o81o81o81xF1xF5xF5xF1xF3o81o81o81o81o81o81xF1o82o81o8121y10_F1s82s82s82_F2_F1s82s
  81s81s81s81s81s81s81s81_F1_F2s83s81s81s81s81s81s81s81s82s83s82_F3_F6_F1_F3s82s81s83s81s8Ps81s81s
  8B_F1_F1s81s81s81_F1_F5_F5_F1_F3s81s81s81s81s81s81_F1s82s81s8121y10eG1_82_82_82eG2eG1_82_81_81_8
  1_81_81_81_81_81eG1eG2_83_81_81_81_81_81_81_81_82_83_82eG3eG6eG1eG3_82_81_83_81_8P_81_81_8BeG1eG
  1_81_81_81eG1eG5eG5eG1eG3_81_81_81_81_81_81eG1_82_81_8121y10gG1X92X92X92gG2gG1X92X91X91X91X91X91
  X91X91X91gG1gG2X93X91X91X91X91X91X91X91X92X93X92gG3gG6gG1gG3X92X91X93X91X9PX91X91X9BgG1gG1X91X91
  X91gG1gG5gG5gG1gG3X91X91X91X91X91X91gG1X92X91X9121y10kG1c92c92c92kG2kG1c92c91c91c91c91c91c91c91c
  91kG1kG2c93c91c91c91c91c91c91c91c92c93c92kG3kG6kG1kG3c92c91c93c91c9Pc91c91c9BkG1kG1c91c91c91kG1k
  G5kG5kG1kG3c91c91c91c91c91c91kG1c92c91c9121y10oG1g92g92g92oG2oG1g92g91g91g91g91g91g91g91g91oG1oG
  2g93g91g91g91g91g91g91g91g92g93g92oG3oG6oG1oG3g92g91g93g91g9Pg91g91g9BoG1oG1g91g91g91oG1oG5oG5oG
  1oG3g91g91g91g91g91g91oG1g92g91g9121y10qG1i92i92i92qG2qG1i92i91i91i91i91i91i91i91i91qG1qG2i93i91
  i91i91i91i91i91i91i92i93i92qG3qG6qG1qG3i92i91i93i91i9Pi91i91i9BqG1qG1i91i91i91qG1qG5qG5qG1qG3i91
  i91i91i91i91i91qG1i92i91i9121y10tG1l92l92l92tG2tG1l92l91l91l91l91l91l91l91l91tG1tG2l93l91l91l91l
  91l91l91l91l92l93l92tG3tG6tG1tG3l92l91l93l91l9Pl91l91l9BtG1tG1l91l91l91tG1tG5tG5tG1tG3l91l91l91l
  91l91l91tG1l92l91l9121y10uG1m92m92m92uG2uG1m92m91m91m91m91m91m91m91m91uG1uG2m93m91m91m91m91m91m9
  1m91m92m93m92uG3uG6uG1uG3m92m91m93m91m9Pm91m91m9BuG1uG1m91m91m91uG1uG5uG5uG1uG3m91m91m91m91m91m9
  1uG1m92m91m912F0121y10cB1q32q32q32cB2cB1q32q31q31q31q31q31q31q31q31cB1cB2q33q31q31q31q31q31q31q3
  1q32q33q32cB3cB6cB1cB3q32q31q33q31q3Pq31q31q3BcB1cB1q31q31q31cB1cB5cB5cB1cB3q31q31q31q31q31q31cB
  1q32q31q31210121y10oF1f82f82f82oF2oF1f82f81f81f81f81f81f81f81f81oF1oF2f83f81f81f81f81f81f81f81f8
  2f83f82oF3oF6oF1oF3f82f81f83f81f8Pf81f81f8BoF1oF1f81f81f81oF1oF5oF5oF1oF3f81f81f81f81f81f81oF1f8
  2f81f8121y10eB1s32s32s32eB2eB1s32s31s31s31s31s31s31s31s31eB1eB2s33s31s31s31s31s31s31s31s32s33s32
  eB3eB6eB1eB3s32s31s33s31s3Ps31s31s3BeB1eB1s31s31s31eB1eB5eB5eB1eB3s31s31s31s31s31s31eB1s32s31s31
  210121y10sF1j82j82j82sF2sF1j82j81j81j81j81j81j81j81j81sF1sF2j83j81j81j81j81j81j81j81j82j83j82sF3
  sF6sF1sF3j82j81j83j81j8Pj81j81j8BsF1sF1j81j81j81sF1sF5sF5sF1sF3j81j81j81j81j81j81sF1j82j81j8121y
  10wF1n82n82n82wF2wF1n82n81n81n81n81n81n81n81n81wF1wF2n83n81n81n81n81n81n81n81n82n83n82wF3wF6wF1w
  F3n82n81n83n81n8Pn81n81n8BwF1wF1n81n81n81wF1wF5wF5wF1wF3n81n81n81n81n81n81wF1n82n81n8121y10yF1p8
  2p82p82yF2yF1p82p81p81p81p81p81p81p81p81yF1yF2p83p81p81p81p81p81p81p81p82p83p82yF3yF6yF1yF3p82p8
  1p83p81p8Pp81p81p8ByF1yF1p81p81p81yF1yF5yF5yF1yF3p81p81p81p81p81p81yF1p82p81p8121y10.F1r82r82r82
  .F2.F1r82r81r81r81r81r81r81r81r81.F1.F2r83r81r81r81r81r81r81r81r82r83r82.F3.F6.F1.F3r82r81r83r81
  r8Pr81r81r8B.F1.F1r81r81r81.F1.F5.F5.F1.F3r81r81r81r81r81r81.F1r82r81r8121y10wG1p92p92p92wG2wG1p
  92p91p91p91p91p91p91p91p91wG1wG2p93p91p91p91p91p91p91p91p92p93p92wG3wG6wG1wG3p92p91p93p91p9Pp91p
  91p9BwG1wG1p91p91p91wG1wG5wG5wG1wG3p91p91p91p91p91p91wG1p92p91p9121y10fG1W92W92W92fG2fG1W92W91W9
  1W91W91W91W91W91W91fG1fG2W93W91W91W91W91W91W91W91W92W93W92fG3fG6fG1fG3W92W91W93W91W9PW91W91W9BfG
  1fG1W91W91W91fG1fG5fG5fG1fG3W91W91W91W91W91W91fG1W92W91W9121y10.G1r92r92r92.G2.G1r92r91r91r91r91
  r91r91r91r91.G1.G2r93r91r91r91r91r91r91r91r92r93r92.G3.G6.G1.G3r92r91r93r91r9Pr91r91r9B.G1.G1r91
  r91r91.G1.G5.G5.G1.G3r91r91r91r91r91r91.G1r92r91r9121y10lG1d92d92d92lG2lG1d92d91d91d91d91d91d91d
  91d91lG1lG2d93d91d91d91d91d91d91d91d92d93d92lG3lG6lG1lG3d92d91d93d91d9Pd91d91d9BlG1lG1d91d91d91l
  G1lG5lG5lG1lG3d91d91d91d91d91d91lG1d92d91d9121y10_G1s92s92s92_G2_G1s92s91s91s91s91s91s91s91s91_G
  1_G2s93s91s91s91s91s91s91s91s92s93s92_G3_G6_G1_G3s92s91s93s91s9Ps91s91s9B_G1_G1s91s91s91_G1_G5_G
  5_G1_G3s91s91s91s91s91s91_G1s92s91s9121y10pF1g82g82g82pF2pF1g82g81g81g81g81g81g81g81g81pF1pF2g83
  g81g81g81g81g81g81g81g82g83g82pF3pF6pF1pF3g82g81g83g81g8Pg81g81g8BpF1pF1g81g81g81pF1pF5pF5pF1pF3
  g81g81g81g81g81g81pF1g82g81g8121y10fB1t32t32t32fB2fB1t32t31t31t31t31t31t31t31t31fB1fB2t33t31t31t
  31t31t31t31t31t32t33t32fB3fB6fB1fB3t32t31t33t31t3Pt31t31t3BfB1fB1t31t31t31fB1fB5fB5fB1fB3t31t31t
  31t31t31t31fB1t32t31t31210121y10zF1q82q82q82zF2zF1q82q81q81q81q81q81q81q81q81zF1zF2q83q81q81q81q
  81q81q81q81q82q83q82zF3zF6zF1zF3q82q81q83q81q8Pq81q81q8BzF1zF1q81q81q81zF1zF5zF5zF1zF3q81q81q81q
  81q81q81zF1q82q81q8121y10xG1q92q92q92xG2xG1q92q91q91q91q91q91q91q91q91xG1xG2q93q91q91q91q91q91q9
  1q91q92q93q92xG3xG6xG1xG3q92q91q93q91q9Pq91q91q9BxG1xG1q91q91q91xG1xG5xG5xG1xG3q91q91q91q91q91q9
  1xG1q92q91q9121y10hG1Z92Z92Z92hG2hG1Z92Z91Z91Z91Z91Z91Z91Z91Z91hG1hG2Z93Z91Z91Z91Z91Z91Z91Z91Z92
  Z93Z92hG3hG6hG1hG3Z92Z91Z93Z91Z9PZ91Z91Z9BhG1hG1Z91Z91Z91hG1hG5hG5hG1hG3Z91Z91Z91Z91Z91Z91hG1Z92
  Z91Z9121y10WH1t92t92t92WH2WH1t92t91t91t91t91t91t91t91t91WH1WH2t93t91t91t91t91t91t91t91t92t93t92W
  H3WH6WH1WH3t92t91t93t91t9Pt91t91t9BWH1WH1t91t91t91WH1WH5WH5WH1WH3t91t91t91t91t91t91WH1t92t91t912
  1y10ZH1w92w92w92ZH2ZH1w92w91w91w91w91w91w91w91w91ZH1ZH2w93w91w91w91w91w91w91w91w92w93w92ZH3ZH6ZH
  1ZH3w92w91w93w91w9Pw91w91w9BZH1ZH1w91w91w91ZH1ZH5ZH5ZH1ZH3w91w91w91w91w91w91ZH1w92w91w9121y10dB1
  r32r32r32dB2dB1r32r31r31r31r31r31r31r31r31dB1dB2r33r31r31r31r31r31r31r31r32r33r32dB3dB6dB1dB3r32
  r31r33r31r3Pr31r31r3BdB1dB1r31r31r31dB1dB5dB5dB1dB3r31r31r31r31r31r31dB1r32r31r31210121y10XH1u92
  u92u92XH2XH1u92u91u91u91u91u91u91u91u91XH1XH2u93u91u91u91u91u91u91u91u92u93u92XH3XH6XH1XH3u92u91
  u93u91u9Pu91u91u9BXH1XH1u91u91u91XH1XH5XH5XH1XH3u91u91u91u91u91u91XH1u92u91u9121y10WG1t82t82t82W
  G2WG1t82t81t81t81t81t81t81t81t81WG1WG2t83t81t81t81t81t81t81t81t82t83t82WG3WG6WG1WG3t82t81t83t81t
  8Pt81t81t8BWG1WG1t81t81t81WG1WG5WG5WG1WG3t81t81t81t81t81t81WG1t82t81t8121y10aH1x92x92x92aH2aH1x9
  2x91x91x91x91x91x91x91x91aH1aH2x93x91x91x91x91x91x91x91x92x93x92aH3aH6aH1aH3x92x91x93x91x9Px91x9
  1x9BaH1aH1x91x91x91aH1aH5aH5aH1aH3x91x91x91x91x91x91aH1x92x91x9121y10bH1y92y92y92bH2bH1y92y91y91
  y91y91y91y91y91y91bH1bH2y93y91y91y91y91y91y91y91y92y93y92bH3bH6bH1bH3y92y91y93y91y9Py91y91y9BbH1
  bH1y91y91y91bH1bH5bH5bH1bH3y91y91y91y91y91y91bH1y92y91y9121y10YH1v92v92v92YH2YH1v92v91v91v91v91v
  91v91v91v91YH1YH2v93v91v91v91v91v91v91v91v92v93v92YH3YH6YH1YH3v92v91v93v91v9Pv91v91v9BYH1YH1v91v
  91v91YH1YH5YH5YH1YH3v91v91v91v91v91v91YH1v92v91v9121y10ZG1w82w82w82ZG2ZG1w82w81w81w81w81w81w81w8
  1w81ZG1ZG2w83w81w81w81w81w81w81w81w82w83w82ZG3ZG6ZG1ZG3w82w81w83w81w8Pw81w81w8BZG1ZG1w81w81w81ZG
  1ZG5ZG5ZG1ZG3w81w81w81w81w81w81ZG1w82w81w8121y10XG1u82u82u82XG2XG1u82u81u81u81u81u81u81u81u81XG1
  XG2u83u81u81u81u81u81u81u81u82u83u82XG3XG6XG1XG3u82u81u83u81u8Pu81u81u8BXG1XG1u81u81u81XG1XG5XG5
  XG1XG3u81u81u81u81u81u81XG1u82u81u8121y10YG1v82v82v82YG2YG1v82v81v81v81v81v81v81v81v81YG1YG2v83v
  81v81v81v81v81v81v81v82v83v82YG3YG6YG1YG3v82v81v83v81v8Pv81v81v8BYG1YG1v81v81v81YG1YG5YG5YG1YG3v
  81v81v81v81v81v81YG1v82v81v8121y10cH1z92z92z92cH2cH1z92z91z91z91z91z91z91z91z91cH1cH2z93z91z91z9
  1z91z91z91z91z92z93z92cH3cH6cH1cH3z92z91z93z91z9Pz91z91z9BcH1cH1z91z91z91cH1cH5cH5cH1cH3z91z91z9
  1z91z91z91cH1z92z91z9121y10aG1x82x82x82aG2aG1x82x81x81x81x81x81x81x81x81aG1aG2x83x81x81x81x81x81
  x81x81x82x83x82aG3aG6aG1aG3x82x81x83x81x8Px81x81x8BaG1aG1x81x81x81aG1aG5aG5aG1aG3x81x81x81x81x81
  x81aG1x82x81x8121y10bG1y82y82y82bG2bG1y82y81y81y81y81y81y81y81y81bG1bG2y83y81y81y81y81y81y81y81y
  82y83y82bG3bG6bG1bG3y82y81y83y81y8Py81y81y8BbG1bG1y81y81y81bG1bG5bG5bG1bG3y81y81y81y81y81y81bG1y
  82y81y8121y10cG1z82z82z82cG2cG1z82z81z81z81z81z81z81z81z81cG1cG2z83z81z81z81z81z81z81z81z82z83z8
  2cG3cG6cG1cG3z82z81z83z81z8Pz81z81z8BcG1cG1z81z81z81cG1cG5cG5cG1cG3z81z81z81z81z81z81cG1z82z81z8
  121y10dG1.82.82.82dG2dG1.82.81.81.81.81.81.81.81.81dG1dG2.83.81.81.81.81.81.81.81.82.83.82dG3dG6
  dG1dG3.82.81.83.81.8P.81.81.8BdG1dG1.81.81.81dG1dG5dG5dG1dG3.81.81.81.81.81.81dG1.82.81.854.11Y1
  ZN53X2470HXM1oN90531C1WS2WJBWJA212EcSGWJ2dOa2WJ2WJ1WJd3fs15311d1.H5333O210EXS535A1aa1NXM1oN905iL
  ItIe20r1XZ14XZ1RXZ15321d1YS5311d1ZS5311d1bS5311d1dS54A280Q0540x144431tJBaR1334AgF5pP13341423BpL1
  339191919191919191919191919191924141414141414141414141414131413141313141363134113K32311o3Zf11af1
  530x14ZA3v41v41v4Bv41v41v42ZA1v49v45ZA1v41v42ZA1ZA2v4Cv43v41v41v41v41v41v41v41v41v41v41v41v41v41
  v41v42ZA1ZA1ZA1ZA1ZA1ZA1ZA1ZA1ZA1ZA1ZA1ZA1ZA1v41ZA1v41ZA1v41v41ZA1v46v41v4411v4Mv411531v14aA3w41
  w41w4Bw41w41w42aA1w49w45aA1w41w42aA1aA2w4Cw43w41w41w41w41w41w41w41w41w41w41w41w41w41w41w42aA1aA1
  aA1aA1aA1aA1aA1aA1aA1aA1aA1aA1aA1w41aA1w41aA1w41w41aA1w46w41w45w4Mw4531v14bA3x41x41x4Bx41x41x42b
  A1x49x45bA1x41x42bA1bA2x4Cx43x41x41x41x41x41x41x41x41x41x41x41x41x41x41x42bA1bA1bA1bA1bA1bA1bA1b
  A1bA1bA1bA1bA1bA1x41bA1x41bA1x41x41bA1x46x41x45x4Mx4531v14cA3y41y41y4By41y41y42cA1y49y45cA1y41y4
  2cA1cA2y4Cy43y41y41y41y41y41y41y41y41y41y41y41y41y41y41y42cA1cA1cA1cA1cA1cA1cA1cA1cA1cA1cA1cA1cA
  1y41cA1y41cA1y41y41cA1y46y41y45y4My4531v14dA3z41z41z4Bz41z41z42dA1z49z45dA1z41z42dA1dA2z4Cz43z41
  z41z41z41z41z41z41z41z41z41z41z41z41z41z42dA1dA1dA1dA1dA1dA1dA1dA1dA1dA1dA1dA1dA1z41dA1z41dA1z41
  z41dA1z46z41z45z4Mz4531v14eA3.41.41.4B.41.41.42eA1.49.45eA1.41.42eA1eA2.4C.43.41.41.41.41.41.41.
  41.41.41.41.41.41.41.41.42eA1eA1eA1eA1eA1eA1eA1eA1eA1eA1eA1eA1eA1.41eA1.41eA1.41.41eA1.46.41.45.
  4M.4531v14Y23n21n21n2Bn21n21n22Y21n29n25Y21n21n22Y21Y22n2Cn23n21n21n21n21n21n21n21n21n21n21n21n2
  1n21n21n22Y21Y21Y21Y21Y21Y21Y21Y21Y21Y21Y21Y21Y21n21Y21n21Y21n21n21Y21n26n21n25n2Mn254829sJj7pg1
  54119rJ531C7323B32333935_H23G0e20r301053HA1ta170D0I.H1Yo1H_EW30Tdg14dg1Rdg1532470I0E.JIdM53a4B10
  20B066Z1010f16S02010d305311d1.H5331d1_H120v11nA2nA4gI3nA2nA1nA1nA1nA2nA1nA1nA1gI1gI2nA3nA1nA1nA1
  nA1nA1nA1nA1nA5nA2gI3gI6gI1gI3nA2nA1nA3nA1nAPnA1nA1nABgI1gI1nA1nA1nA1gI1gI411gI5gI1gI3nA1nA1nA1n
  A1nA1nA1gI1nA2nA1nA41121t11oA2oA4hI3oA2oA1oA1oA1oA2oA1oA1oA1hI1hI2oA3oA1oA1oA1oA1oA1oA1oA1oA5oA2
  hI3hI6hI1hI3oA2oA1oA3oA1oAPoA1oA1oABhI1hI1oA1oA1oA1hI1hI5hI5hI1hI3oA1oA1oA1oA1oA1oA1hI1oA2oA1oA1
  21t11pA2pA4iI3pA2pA1pA1pA1pA2pA1pA1pA1iI1iI2pA3pA1pA1pA1pA1pA1pA1pA1pA5pA2iI3iI6iI1iI3pA2pA1pA3p
  A1pAPpA1pA1pABiI1iI1pA1pA1pA1iI1iI5iI5iI1iI3pA1pA1pA1pA1pA1pA1iI1pA2pA1pA121t11h12h14d63h12h11h1
  1h11h12h11h11h11d61d62h13h11h11h11h11h11h11h11h15h12d63d66d61d63h12h11h13h11h1Ph11h11h1Bd61d61h1
  1h11h11d61d65d65d61d63h11h11h11h11h11h11d61h12h11h1121012101210121t11qA2qA4jI3qA2qA1qA1qA1qA2qA1
  qA1qA1jI1jI2qA3qA1qA1qA1qA1qA1qA1qA1qA5qA2jI3jI6jI1jI3qA2qA1qA3qA1qAPqA1qA1qABjI1jI1qA1qA1qA1jI1
  jI5jI5jI1jI3qA1qA1qA1qA1qA1qA1jI1qA2qA1qA53C1v1012f3600504070J0.2054H690B3EYN5nMl601054D790D0CYN
  5rI20GmCe2653E78vJ1vJC01vJC05sN2vJ53E78kI1kIC01kIC05aM2kI543296P0545293P054P570F0C070u2n254W1570
  F0C070u2v454W1570F0C070u2w454W1570F0C070u2x454W1570F0C070u2y454W1570F0C070u2z454W1570F0C070u2.45
  3B68xJ1xJDxJHeT2xJG_E53B68tC1tCDtCH_P2tCGWK54B1d1.H53358aL1aLDaLH.H2aL53358YF1YFDYFH_H2YF54D3P3E
  _HI054E1d1_H54K1Y1ZN54K1Y1ZN5414P6905aSIbO5411d1.H546290m1.V5411d1tP54L1v1053O1v1053Q58kM1kMD0Hi
  L2kM53Q58aK1aKD0H.J2aK5375OXM1_UEiLItIe205365O_L1oJE.JIdMe2053I1v1053G1v105491v105361v105351v105
  3Z138xJ10D053Z138tC10D053267610Q65.H20G_E53267310Q35_H20GWK5331v10533470HXM1_U90533470H_L1oJ9053
  24O216EcSIdO5324O413EvPIuW15321d1.H5321d1_H5323P0EXSI_E5323P0EqPIWK5321d1YS5321d1rP5321d1ZS5321d
  1sP53B1v105331d1bS5331d1uP5321d1dS5321d1wP53E1v1053B1v105311d1rP5311d1sP5311d1uP5311d1wP330j14t7
  3p21p21p2Br11p21p22t71p29p26t11p22t71t72s1CdUJp21p21t71p21p21t71p21t71t71t71t71p21p21p21t71p21t7
  1p21p21p21p26p21p2411UMp211v2nH4yH3313e1p26p2Cp2340j14K3T1T1TBT1T1T2K1T9T5nJ1T1T2K1K2TCTJT1T1K1T
  1T1K1T1K1K1K1K1T1T1T1K1T1K1T1T1T1T6T1T411TKYY12T11333c14i43i11i11i1Bi11i11i12i41i19i17i12i41i4X1
  i11i11i41i11i11i41i11i41i41i41i41i11i11i11i41i11i41i11i11i11i16i11i1Ri1.203313e1i16i1Ci1335e14yD
  3.91.91.9C.91.92yD1.99.97.92yD1yDEw1J.91.91yD1.91.91yD1.91yD1yD1yD1yD1.91.91.91yD1.91yD1.91.91.9
  1.96J1J5.9M.9w204lH331Z14zD3_91_91_9C_91_92zD1_99_97_92zD1zDX1_91_91zD1_91_91zD1_91zD1zD1zD1zD1_
  91_91_91zD1_91zD1_91_91_91_9C_9M_9331b14_D3v71v71v7Cv71v72_D1v79v77v72_D1_DX1v71v71_D1v71v71_D1v
  71_D1_D1_D1_D1v71v71v71_D1v71_D1v71v71v71v76v71v75v7Mv73461d10341g14F3L1L1LBL1L1L2F1L9L6L1L2F1F2
  LCLJL1L1F1L1L1F1L1F1F1F1F1L1L1L1F1L1F1L1L1L1L6L1L5LKam12L33x2Nz101010101010101010101010101010231
  3231323531373331g14_23R1cN1cNBR101cN2_21R9R5nJ1R1cN2_21_22RCRJR1R1_21R1R1_21R1_21_21_21_21R1R1R1
  _21R1_21R1R1R1R6R1R5RMR331g14w73W31W31W3BW31W31W32w71W39W3501W31W32w71w72W3CW3JW31W31w71W31W31w7
  1W31w71w71w71w71W31W31W31w71W31w71W31W31W31W36W31W35W3MW3331f14x73X31X31X3BX31X31X32x71X39X36X31
  X32x71x72X3CX3JX31X31x71X31X31x71X31x71x71x71x71X31X31X31x71X31x71X31X31X31X36X31X35X3MX3331f14.
  73a31a31a3Ba31a31a32.71a39a36a31a32.71.72a3Ca3Ja31a31.71a31a31.71a31.71.71.71.71a31a31a31.71a31.
  71a31a31a31a36a31a35a3Ma3331f14y73Y31Y31Y3BY31Y31Y32y71Y39Y36Y31Y32y71y72Y3CY3JY31Y31y71Y31Y31y7
  1Y31y71y71y71y71Y31Y31Y31y71Y31y71Y31Y31Y31Y36Y31Y35Y3MY3331f14_73b31b31b3Bb31b31b32_71b39b36b31
  b32_71_72b3Cb3Jb31b31_71b31b31_71b31_71_71_71_71b31b31b31_71b31_71b31b31b31b36b31b35b3Mb3331f14W
  83c31c31c3Bc31c31c32W81c39c36c31c32W81W82c3Cc3Jc31c31W81c31c31W81c31W81W81W81W81c31c31c31W81c31W
  81c31c31c31c36c31c35c3Mc3331f14z73Z31Z31Z3BZ31Z31Z32z71Z39Z36Z31Z32z71z72Z3CZ3JZ31Z31z71Z31Z31z7
  1Z31z71z71z71z71Z31Z31Z31z71Z31z71Z31Z31Z31Z36Z31Z35Z3MZ3331f14X83d31d31d3Bd31d31d32X81d39d36d31
  d32X81X82d3Cd3Jd31d31X81d31d31X81d31X81X81X81X81d31d31d31X81d31X81d31d31d31d36d31d35d3Md333A1d10
  33H2j3i1m3033Bf14l43p11eN1eNBp12eN2l41p19p15ZM1p11eN2l41l42p1Cp1Jp11p11l41p11p11l41p11l41l41l41l
  41p11p11p11l41p11l41p11p11p11p16p11p15p1Mp1332f14kD3t61t61t6Bt61t61t62kD1t69t66t61t62kD1kD2t6Ct6
  Jt61t61kD1t61t61kD1t61kD1kD1kD1kD1t61t61t61kD1t61kD1t61t61t61t66t61t65t6Mt6331f14YE3W71W71W7BW71
  W71W72YE1W79W76W71W72YE1YE2W7CW7JW71W71YE1W71W71YE1W71YE1YE1YE1YE1W71W71W71YE1W71YE1W71W71W71W76
  W71W75W7MW7331f14s73k21k21k2Bk21k21k22s71k29k26k21k22s71s72k2Ck2Jk21k21s71k21k21s71k21s71s71s71s
  71k21k21k21s71k21s71k21k21k21k26k21k25k2Mk2331f14.D3_61_61_6B_61_61_62.D1_69_66_61_62.D1.D2_6C_6
  J_61_61.D1_61_61.D1_61.D1.D1.D1.D1_61_61_61.D1_61.D1_61_61_61_66_61_65_6M_63320331f14yC3p51p51p5
  Bp51p51p52yC1p59p56p51p52yC1yC2p5Cp5Jp51p51yC1p51p51yC1p51yC1yC1yC1yC1p51p51p51yC1p51yC1p51p51p5
  1p56p51p55p5Mp5331f14qD3Z41Z41Z4BZ41Z41Z42qD1Z49Z46Z41Z42qD1qD2Z4CZ4JZ41Z41qD1Z41Z41qD1Z41qD1qD1
  qD1qD1Z41Z41Z41qD1Z41qD1Z41Z41Z41Z46Z41Z45Z4MZ4338f14k43n11dN1dNBn12dN2k41n19n15YM1n11dN2k41k42n
  1Cn1Jn11n11k41n11n11k41n11k41k41k41k41n11n11n11k41n11k41n11n11n11n16n11n15n1Mn1332f14gD3i61i61i6
  Bi61i61i62gD1i69i66i61i62gD1gD2i6Ci6Ji61i61gD1i61i61gD1i61gD1gD1gD1gD1i61i61i61gD1i61gD1i61i61i6
  1i66i61i65i6Mi6331f14bE3Z71Z71Z7BZ71Z71Z72bE1Z79Z76Z71Z72bE1bE2Z7CZ7JZ71Z71bE1Z71Z71bE1Z71bE1bE1
  bE1bE1Z71Z71Z71bE1Z71bE1Z71Z71Z71Z76Z71Z75Z7MZ7331f14WB3_31_31_3B_31_31_32WB1_39_36_31_32WB1WB2_
  3C_3J_31_31WB1_31_31WB1_31WB1WB1WB1WB1_31_31_31WB1_31WB1_31_31_31_36_31_35_3M_3331f14WD3t51t51t5
  Bt51t51t52WD1t59t56t51t52WD1WD2t5Ct5Jt51t51WD1t51t51WD1t51WD1WD1WD1WD1t51t51t51WD1t51WD1t51t51t5
  1t56t51t55t5Mt5331f14g23W41W41W4BW41W41W42g21W49W46W41W42g21g22W4CW4JW41W41g21W41W41g21W41g21g21
  g21g21W41W41W41g21W41g21W41W41W41W46W41W45W4MW4331f14r73j21j21j2Bj21j21j22r71j29j26j21j22r71r72j
  2Cj2Jj21j21r71j21j21r71j21r71r71r71r71j21j21j21r71j21r71j21j21j21j26j21j25j2Mj2331f14mD3v61v61v6
  Bv61v61v62mD1v69v66v61v62mD1mD2v6Cv6Jv61v61mD1v61v61mD1v61mD1mD1mD1mD1v61v61v61mD1v61mD1v61v61v6
  1v66v61v65v6Mv6331f14xD3.61.61.6B.61.61.62xD1.69.66.61.62xD1xD2.6C.6J.61.61xD1.61.61xD1.61xD1xD1
  xD1xD1.61.61.61xD1.61xD1.61.61.61.66.61.65.6M.6631g14k73z21z21z2Bz21z21z22k7109z26z21z22k71k72z2
  Cz2Jz21z21k71z21z21k71z21k71k71k71k71z21z21z21k71z21k71z21z21z21k76z21z25z24lSIz2332f14ZE3X71X71
  X7BX71X71X72ZE1X79X76X71X72ZE1ZE2X7CX7JX71X71ZE1X71X71ZE1X71ZE1ZE1ZE1ZE1X71X71X71ZE1X71ZE1X71X71
  X71X76X71X75X7MX7331f14rD3a41a41a4Ba41a41a42rD1a49a46a41a42rD1rD2a4Ca4Ja41a41rD1a41a41rD1a41rD1r
  D1rD1rD1a41a41a41rD1a41rD1a41a41a41a46a41a45a4Ma4331f14vB3v51v51v5Bv51v51v52vB1v59v56v51v52vB1vB
  2v5Cv5Jv51v51vB1v51v51vB1v51vB1vB1vB1vB1v51v51v51vB1v51vB1v51v51v51v56v51v55v5Mv5331f14wD3z61z61
  z6Bz61z61z62wD1z69z66z61z62wD1wD2z6Cz6Jz61z61wD1z61z61wD1z61wD1wD1wD1wD1z61z61z61wD1z61wD1z61z61
  z61z66z61z65z6Mz6331f14.C3r51r51r5Br51r51r52.C1r59r56r51r52.C1.C2r5Cr5Jr51r51.C1r51r51.C1r51.C1.
  C1.C1.C1r51r51r51.C1r51.C1r51r51r51r56r51r55r5Mr5331f14zC3q51q51q5Bq51q51q52zC1q59q56q51q52zC1zC
  2q5Cq5Jq51q51zC1q51q51zC1q51zC1zC1zC1zC1q51q51q51zC1q51zC1q51q51q51q56q51q55q5Mq5331f14sD3b41b41
  b4Bb41b41b42sD1b49b46b41b42sD1sD2b4Cb4Jb41b41sD1b41b41sD1b41sD1sD1sD1sD1b41b41b41sD1b41sD1b41b41
  b41b46b41b45b4Mb433B0331f14iD3k61k61k6Bk61k61k62iD1k69k66k61k62iD1iD2k6Ck6Jk61k61iD1k61k61iD1k61
  iD1iD1iD1iD1k61k61k61iD1k61iD1k61k61k61k66k61k65k6Mk6331f14hD3j61j61j6Bj61j61j62hD1j69j66j61j62h
  D1hD2j6Cj6Jj61j61hD1j61j61hD1j61hD1hD1hD1hD1j61j61j61hD1j61hD1j61j61j61j66j61j65j6Mj6331f14jD3s6
  1s61s6Bs61s61s62jD1s69s66s61s62jD1jD2s6Cs6Js61s61jD1s61s61jD1s61jD1jD1jD1jD1s61s61s61jD1s61jD1s6
  1s61s61s66s61s65s6Ms6331f14XD3u51u51u5Bu51u51u52XD1u59u56u51u52XD1XD2u5Cu5Ju51u51XD1u51u51XD1u51
  XD1XD1XD1XD1u51u51u51XD1u51XD1u51u51u51u56u51u55u5Mu5331f14h23X41X41X4BX41X41X42h21X49X46X41X42h
  21h22X4CX4JX41X41h21X41X41h21X41h21h21h21h21X41X41X41h21X41h21X41X41X41X46X41X45X4MX4331f14tD3c4
  1c41c4Bc41c41c42tD1c49c46c41c42tD1tD2c4Cc4Jc41c41tD1c41c41tD1c41tD1tD1tD1tD1c41c41c41tD1c41tD1c4
  1c41c41c46c41c45c4Mc4331f14nD3w61w61w6Bw61w61w62nD1w69w66w61w62nD1nD2w6Cw6Jw61w61nD1w61w61nD1w61
  nD1nD1nD1nD1w61w61w61nD1w61nD1w61w61w61w66w61w65w6Mw6331f14uD3d41d41d4Bd41d41d42uD1d49d46d41d42u
  D1uD2d4Cd4Jd41d41uD1d41d41uD1d41uD1uD1uD1uD1d41d41d41uD1d41uD1d41d41d41d46d41d45d4Md4331f14vD3e4
  1e41e4Be41e41e42vD1e49e46e41e42vD1vD2e4Ce4Je41e41vD1e41e41vD1e41vD1vD1vD1vD1e41e41e41vD1e41vD1e4
  1e41e41e46e41e45e4Me4331f14oD3x61x61x6Bx61x61x62oD1x69x66x61x62oD1oD2x6Cx6Jx61x61oD1x61x61oD1x61
  oD1oD1oD1oD1x61x61x61oD1x61oD1x61x61x61x66x61x65x6Mx6331f14aE3Y71Y71Y7BY71Y71Y72aE1Y79Y76Y71Y72a
  E1aE2Y7CY7JY71Y71aE1Y71Y71aE1Y71aE1aE1aE1aE1Y71Y71Y71aE1Y71aE1Y71Y71Y71Y76Y71Y75Y7MY7331f14wB3w5
  1w51w5Bw51w51w52wB1w59w56w51w52wB1wB2w5Cw5Jw51w51wB1w51w51wB1w51wB1wB1wB1wB1w51w51w51wB1w51wB1w5
  1w51w51w56w51w55w5Mw5331f14_C3s51s51s5Bs51s51s52_C1s59s56s51s52_C1_C2s5Cs5Js51s51_C1s51s51_C1s51
  _C1_C1_C1_C1s51s51s51_C1s51_C1s51s51s51s56s51s55s5Ms5331f14lD3u61u61u6Bu61u61u62lD1u69u66u61u62l
  D1lD2u6Cu6Ju61u61lD1u61u61lD1u61lD1lD1lD1lD1u61u61u61lD1u61lD1u61u61u61u66u61u65u6Mu6331f14pD3y6
  1y61y6By61y61y62pD1y69y66y61y62pD1pD2y6Cy6Jy61y61pD1y61y61pD1y61pD1pD1pD1pD1y61y61y61pD1y61pD1y6
  1y61y61y66y61y65y6My6331f14xB3x51x51x5Bx51x51x52xB1x59x56x51x52xB1xB2x5Cx5Jx51x51xB1x51x51xB1x51
  xB1xB1xB1xB1x51x51x51xB1x51xB1x51x51x51x56x51x55x5Mx5331f14WE3b51b51b5Bb51b51b52WE1b59b56b51b52W
  E1WE2b5Cb5Jb51b51WE1b51b51WE1b51WE1WE1WE1WE1b51b51b51WE1b51WE1b51b51b51b56b51b55b5Mb533u11X40331
  f14XE3c51c51c5Bc51c51c52XE1c59c56c51c52XE1XE2c5Cc5Jc51c51XE1c51c51XE1c51XE1XE1XE1XE1c51c51c51XE1
  c51XE1c51c51c51c56c51c55c5Mc5331f14f13m21m21m2Bm21m21m22f11m29m26m21m22f11f12m2Cm2Jm21m21f11m21m
  21f11m21f11f11f11f11m21m21m21f11m21f11m21m21m21m26m21m25m2Mm234Z2C70Dn420C06u4105o4CXUp1z1Kp2y2n
  K4zK3413e1p26p2Cp233o1370I0E.J33X2Z14o1301nE1nECnE1nE2N109nE7nE2N1NX1o51z51q41u11u11e51j51k51q11
  q11o11m41g41M1x11y11x11y11M1.51MCnEM_533178gE1gECgE1gECgE7gEa2gE33178Z41Z4CZ41Z4CZ47Z4a2Z433178o
  E1oECoE1oECoE7oEa2oE33178aD1aDCaD1aDCaD7aDa2aD33178a41a4Ca41a4Ca47a4a2a4331O8818C8182HA8782H1HX1
  8184H181H681H181H18181818C8M833184Hh2H18184H1H1H18333B8818C818C878a1818I8D8M83311j2o53343l2H1818
  3333o2H181H3311o2e53311p2j53342r2H1H33803354x2H181H183381k2z533D78rE1rECrE1rECrE7rEa2rE33178b41b
  4Cb41b4Cb47b4a2b433178c41c4Cc41c4Cc47c4a2c433178d41d4Cd41d4Cd47d4a2d433178e41e4Ce41e4Ce47e4a2e43
  3178pE1pECpE1pECpE7pEa2pE33178qE1qECqE1qECqE7qEa2qE33178sE1sECsE1sECsE7sEa2sE33h27701p11p1Cp11p1
  30Gp133a27701n11n1Cn11n130Gn133u27701R1RCR1R30GR34l2A70F0C06u4105o4CXUp1z1Ki1y2nK3413e1i16i1Ci13
  4X3C70Dn420C06u4105o4CY5j1.11.1P.9W3lK3465M03p19070u2p134e1470F0J0u2b534Z3C70Dn420C06u4105o4CY5j
  1.11.1P_9W3lK34Z3A70Dn420C06u4105o4CY5d2v7W3lK3495M03n19070u2n134g1470F0J0u2c534A7907T604T8070u2
  hQ34159R709R10d3R33F78yH1yHCyH1yHCyH7yHa2034k3570F0C070u2aY134d3570F0C070u233411d103412P0EnM34F2
  j3i1m3033278kI1kIC01kIHaM2kIu2034DW14X54nE1nECnE3.210I.21.2X1YD1cD1uB1m51m51qC1sC1uC1d51d51X51ZB
  1XB1s21W61X61W61X61s21dE1s2CnEKnE2cE34W3570F0C070u2t634W3570F0C070u2W734.2570F0C070u2k234W3570F0
  C070u2_6342034W3570F0C070u2p534758gE1gECgEu2gEKgE34X3570F0C070u2Z434258Z41Z4CZ4u2Z4KZ434X3570F0C
  070u2i634X3570F0C070u2Z734358oE1oECoEu2oEKoE34Y3570F0C070u2_334Y3570F0C070u2t534s2570F0C070u2j23
  4X3570F0C070u2v634X3570F0C070u2.664X3670F0C070e2rSGz234X3570F0C070u2X734858aD1aDCaDu2aDKaD34Y357
  0F0C070u2a434258a41a4Ca4u2a4Ka434t1K4X5Gn420C06u4105o4CY5LuB1m51m54d51d51X51ZB1XBE.11.1P8W3lK34a
  3570F0C070u2v534284Hh2H18184H1H1H1834498818C8u1818I8D8K8283411j2YD3453l2H18183433o2H181H3411o2qC
  3411p2sC3442r2H1H34803454x2H181H183481k2cD34l3570F0C070u2z634l3570F0C070u2r534l3570F0C070u2q534H
  58rE1rECrEu2rEKrE34m3570F0C070u2b434258b41b4Cb4u2b4Kb434R034n3570F0C070u2k634n3570F0C070u2j634n3
  570F0C070u2s634n3570F0C070u2u534m3570F0C070u2c434758c41c4Cc4u2c4Kc434n3570F0C070u2w634n3570F0C07
  0u2d434358d41d4Cd4u2d4Kd434o3570F0C070u2e434258e41e4Ce4u2e4Ke434p3570F0C070u2x634258pE1pECpEu2pE
  KpE34158qE1qECqEu2qEKqE34r3570F0C070u2Y734r3570F0C070u2w534r3570F0C070u2s534r3570F0C070u2u634r35
  70F0C070u2y634r3570F0C070u2x534758sE1sECsEu2sEKsE33X258tC1tCDtCH_P2tC33158YF1YFDYFH_H2YF34i59702
  07gB60301gB8070u2iQ34159W3709W310d3W334j5970207hB60301hB8070u2jQ34j5970207kB60301kB8070u2kQ34j59
  70207iB60301iB8070u2lQ34359X3709X310d3X334359a3709a310d3a334359Y3709Y310d3Y334m5970207lB60301lB8
  070u2mQ34m5970207mB60301mB8070u2nQ34m5970207jB60301jB8070u2oQ34359b3709b310d3b334359c3709c310d3c
  334359Z3709Z310d3Z334p5970207nB60301nB8070u2pQ34159d3709d310d3d364W2290Gk733e368wH1wHC01wHC07wH3
  3e368vH1vHC01vHC07vH33e368uH1uHC01uHC07uH34l2S4m750Fh51gEIh51h5X1jF1qH1hE1Y81Y81vE1WF1cF1o71o71m
  71dD1wC1Z51WA1hA1WA1hA1Z51aI1Z5Y1fI34158Z4DZ44Z4q2Z4KZ434158oEDoE4oEq2oEKoE34158aDDaD4aDq2aDKaD3
  4158a4Da44a4q2a4Ka434w1B4m750G8s1hE1Y81Y84o71o71m71dD1wC34x1390G8W2wC343988D848q1818I8D8K8283411
  j2jF3443l2H18183433o2H181H3411o2vE3411p2WF3442r2H1H34803454x2H181H183481k2qH34D58rEDrE4rEq2rEKrE
  34158b4Db44b4q2b4Kb434158c4Dc44c4q2c4Kc434158d4Dd44d4q2d4Kd434158e4De44e4q2e4Ke434158pEDpE4pEq2p
  EKpE34158qEDqE4qEq2qEKqE34158sEDsE4sEq2sEKsE34p3290UtP34258nEDnE4nEq2nEKnE34o168eO10CgOu20KgOz3p
  c13434KXo1509dR503422LhOi3hO3412LiOi3iO33q158aK1aKD0H.J2aK33z368XP1XPC01XPC07XP3384O_L1oJE.Jw203
  4n338ao11tOa3034i3490Bco1509sL34238bo1DaDi3aD34128Zo11cR33648sO1sODsOJsO34D68YLDYL3zd11YLq20KYL3
  3j4490Fnd11wHe3033g4490Fmd11vHe3033e4490Fld11uHe3033558tB10DuX1J0r6bZ133158fEE0JwQl6of1603311f1z
  m13332LrT1033248eLEeLJeLl6033229mUC03343MxQJ0l6Zg134D48yH10CyHi3yH333290W1vX133419aU34338YLDYLi3
  YL3381LxT3341f1wX13312Y1hT7033E1MpX13311MqX13311MyW13361LWU3321MrX13311M.W13311MZX13311Mfl13311M
  hl13311MsX13311MhX133x438tC10D033e2390D0JeN33e2390D0JdN33e2390D0JcN3351MtX133S2f1uQl6tg133P2MvQY
  7yg133K1f1mX133O19cU3321f1nX133MV4l53gE10Go3AgE9o31o3X1eE1jE1ZC1Y61Y61vC1ZD1bD1y51y51l51zB1aB1n3
  1l61m61l61m61n31lE1n3CgEMmEx3033137Z4RZ4h2Z433137oERoEh2oE33137aDRaDh2aD33137a4Ra4h2a433f6F4l538
  1010C010J0c1ZC1Y61Y64y51y51l51zB1aB33g67781010C010J0m1aB333778R8h1818I8D8M83311j2eE3343l2H181833
  33o2H181H3311o2vC3311p2ZD3342r2H1H33803354x2H181H183381k2jE33D37rERrEh2rE33137b4Rb4h2b433137c4Rc
  4h2c433137d4Rd4h2d433137e4Re4h2e433137pERpEh2pE33137qERqEh2qE33137sERsEh2sE33V1MoX133U2MYQY7ah13
  321MzW13311MxX13311MyX13311MzX13311M_X133837nERnEh2nE33p11LbU3311LhU3311LtT220b11cP2cP1oI3bJ1YB1
  sl15cPQuJ9Z21a25qc1LyEW116pI1pI9G1rc11nI1tS1tS41o1qp12oe12qp1Rqp11gg16qe16pV8oe11gg11gg11oe11qe1
  1qe12oT5hg11se134.1380DgX1i3gX133e138wY11wY1r703422Lcl1i3bl133228tO1tO33128cR1cR63y3480D0y2lSG02
  27C1dP2dP6hm15dPf1sc1c2tc12uS1uSs2pe1Lpe11pe1Are122881eP2eP6fm15ePf1uc1c2vc12vS1vS22181fP2fP6ym1
  5fPf1wc1c2xc12wS1wS22181gP2gP6_m15gPf1yc1c2zc12xS1xS22181hP2hP6Yn15hPf1.c1c2_c12yS1yS33z2380D0I_
  H33n1T4n730Hi51gE909i51i5X1kF1rH1iE1Z81Z81wE1XF1dF1p71p71n71eD1xC1a51XA1iA1XA1iA1a51cI1a5Y1eI331
  2PZ4q2Z43312PoEq2oE3312PaDq2aD3312Pa4q2a433e1C4n730I890j1iE1Z81Z84p71p71n71eD1xC33f1470I890t1xC3
  336P8q1818I8D8M83311j2kF3343l2H18183333o2H181H3311o2wE3311p2XF3342r2H1H33803354x2H181H183381k2rH
  33D2PrEq2rE3312Pb4q2b43312Pc4q2c43312Pd4q2d43312Pe4q2e43312PpEq2pE3312PqEq2qE3312PsEq2sE33Q3O413
  EvP3322PnEq2nE3322P0EqP33j137do1R0h20331270RYk133c138010W1li13353O.d11YLq203351d1rP3341Y1ck13341
  f1gh13331d1sP3331Y1fk13321d1uP3321Y1ik13321d1wP3321Y1lk122h1H1iP2iP5_Y11_Y15iPf1Wd1c2Xd12zS1zSu1
  ei1Ufi1Kei11fi11fi11ei190103326Kn4E06u46o4CY5d5lK3331Y10223R1jP2jP401lF1ni15jPQt2FYd1LzKc1XO1XOA
  Zd12.S1.Ss102020R01zg16yf1E01zg11zg1101yf11yf17.g1124R1fL2fL104cJ1ig15fLf1fLLWIc1eM1eM901fL101fL
  1fLu1fg1U06vp1608fg110101fg11vp11vp1206ig1220S1pC2pC1cM5cm15pC7gn1JXK9hJ1iJ5zLr116YJ1YJ9G1yL1bM1
  XJ1XJ41u2pZ16pV4si12fV3gV3pZ11pZ12qTHnS223D1lP2lP5.Y11.Y15lPf1ad1c2bd12_S1_Ss2fi1Lfi11fi1A022239
  dm1C.Qj7oS221H1XQ2XQ1jp15hp15XQ7op1Jnp19kp11lp15af1x1fZ11fZ19mp11Zf11ip11gT1gT125C1gL2gL6eh15gLf
  1gLc2gL2gL1gLu1oe1o1oe13oe1Ase122339vl1Chn1j7rS22419Ym122139sk1Cin1j7tS22219tk1125D1hL2hL5WZ11WZ
  15hLf1hLc2hL2hL1hLu1ei1o1ei13ei1A0120P1B2B1.E4YB1rJ5B6g1Eg15YC1t29Z21a25Br116f41f4AB2a81a841u2di
  1Idi11di17pg11af11211t1sI12229tJj7Zf11211t1sI12419sJ1211t1sI12219nO1211t1sI12219oO1211t1sI12219p
  O1211t1sI12C340x3B1B150O1pC2pC1ZQ3rC7pC6g11g1Ig11XK9hJ1iJ5dd1r116wT1wTApC2WT1WT1g131MjVY2zZ1IzZ1
  1zZ112229tJj7Zf112319sJ12119nO12119oO12119pO22SM1B2kd11kT40105Bd1ea12XTL0c1YO1YOAjR1jT1kR1lRs206
  ji1F0102ji11ji12aU12A48dL1dLj70101211t1sI12248lF1aOU0l6_g11211t1sI124340x3B1B22623Bo10152E4ZQ401
  0Cg1D05g1h2vK1vKCkN1kN1g1x2zn1Izn11zn1222H1pC2pC1sf1ApCQXK9hJ1iJ5ed1x1yT1yTAcd11jf11gd11hd1y2.Z1
  I.Z11.Z112638cL1cLj701211t1sI15HB4uf130m1fd1x1zT1zTCid11jd1Q0Y2Wa1IWa11Wa1129340x3B1B15684lTk3pJ
  1pJClN1lNy2Xo1IXo11Xo115184tf1k3WW11WW1CuZ11vZ1y2Zo1IZo11Zo115184wf1k3eW11eW1CyZ11zZ1y2lo1Ilo11l
  o1720L1lH2lH1xHAlH6ff1KxH6ya13xH1xH3lH2lHr116xH1xH9xH1lH1xH1lH1lH41z2xV15A340x3B1B12638cL1cLj701
  56340x3B1B1515o3YW11YW1f3bo1Ibo11bo11515o3ZW11ZW1f3co1Ico11co11515o3fW11fW1f3mo1Imo11mo11515o3gW
  11gW1f3no1Ino11no122GJ1mK2mK1tLAmKQtL9tL1tL3mK2mKx1tL1tL9ro11mK1tL1mK1mKy20I010220K1kL2kL1kJ4kJ1
  kJ5kL7kJJkJ9kJ1kJ5kLr116kJ1kJ9kJ1kL1kJ1kL1kL4172AJ1_J2_J1cKA_J6cKKcK6_J3cK1cK3_J2_Jx1cK1cK9cK1_J
  1cK1_J1_JX30222I1lI2lI1tE4tE1tE5lI7tEJtE9tE1tE5lIx1tE1tE9tE1lI1tE1lI1lI2210221I1lL2lL1lJ4lJ1lJ5l
  L7lJJlJ9lJ1lJ5lLx1lJ1lJ9lJ1lL1lJ1lL1lL221I1fA2fA1f54f51f55fA7f5Jf59f51f55fAx1f51f59f51fA1f51fA1f
  A22102210221022102210221I1mL2mL1mJ4mJ1mJ5mL7mJJmJ9mJ1mJ5mLx1mJ1mJ9mJ1mL1mJ1mL1mL221I1Y42Y41f24f2
  1f25Y47f2Jf29f21f25Y4x1f21f29f21Y41f21Y41Y42210221022102210221022102210221022102210221I1gA2gA1g5
  4g51g55gA7g5Jg59g51g55gAx1g51g59g51gA1g51gA1gA22102210221022102210251J1F2F1L401L5F7LJL9L1L5Fx1L1
  L9L1F1L1F1F1df1251I1K2K1T5T5K7TJT9T1T5Kx1T1T9T1K1T1K1K1cf112X19L0I0IdQv1uK1uKE0x2bj1Ibj11bj11214
  4mf1r10c2mR1mR120J5dY18pK1mH1mH5g1X1wK2xK1tKq11GG818gCBqB1qBj1qB3qB2qBOpVFdc112284nf1k3cV1cVCkZ1
  1lZ1y2ej1Iej11ej112194of1p1gZ1x1dV1dVCmZ11nZ1y2fj1Ifj11fj1226I1mI2mI1ZF5ZF5mI7ZFJZF9ZF1ZF5mIx1ZF
  1ZF9ZF1mI1ZF1mI1mI102211Lgp112484qf1k3mV1mVCqZ11rZ1y2hk1Ihk11hk112184rf1k3qV1qVCsZ11tZ1y2mk1Imk1
  1mk1223H1jL2jL1wJ5wJ5jL7wJJwJ9wJ1wJ5jLx1wJ1wJ9wJ1jL1wJ1jL1jL221H1nL2nL1yJ5yJ5nL7yJJyJ9yJ1yJ5nLx1
  yJ1yJ9yJ1nL1yJ1nL1nL22D1X40221H1f12f11m25m25f17m2Jm29m21m25f1x1m21m29m21f11m21f11f112u13L0I0w201
  2184xf1k3iW11iW1C.Z11_Z1y2po1Ipo11po1220I1lK2lK1bLAlKQbL9bL1bL3lK2lKr116bL1bL9bL1lK1bL1lK1lK4112
  .148010B0E022v13K0Q0p5012G1K012J1v1012494pf1p1hZ1x1eV1eVCoZ11pZ1y2gj1Igj11gj11225o3fV1fVf3hj1Ihj
  11hj11215o3gV1gVf3ij1Iij11ij1226G1kK2kK1ZLAkKQZL9ZL1ZL3kK2kKx1ZL1ZL9ZL1kK1ZL1kK1kK1225o3ZO1ZOf3a
  k1Iak11ak11215o3jV1jVf3dk1Idk11dk11215o3kV1kVf3ek1Iek11ek11215o3nV1nVf3ik1Iik11ik11215o3oV1oVf3j
  k1Ijk11jk11215o3rV1rVf3nk1Ink11nk11215o3sV1sVf3ok1Iok11ok11215o3uV1uVf3el1Iel11el11215o3vV1vVf3f
  l1Ifl11fl11215o3xV1xVf3ll1Ill11ll11215o3yV1yVf3ml1Iml11ml122CG1vB2vB1v5AvBQv59v51v53vB2vBx1v51v5
  9v51vB1v51vB1vB221G1wB2wB1w5AwBQw59w51w53wB2wBx1w51w59w51wB1w51wB1wB221G1xB2xB1x5AxBQx59x51x53xB
  2xBx1x51x59x51xB1x51xB1xB12t25K010I0GiZ1g2012L15cn112R340x3B1B12394vf1p1jZ1x1XW11XW1CwZ11xZ1y2ao
  1Iao11ao11225o3cO1cOf3go1Igo11go11215o3bW11bW1f3io1Iio11io11215o3cW11cW1f3jo1Ijo11jo11215o3jW11j
  W1f3qo1Iqo11qo11215o3kW11kW1f3ro1Iro11ro11215o3mW11mW1f3uo1Iuo11uo11215o3nW11nW1f3vo1Ivo11vo1121
  5o3pW11pW1f3xo1Ixo11xo11215o3qW11qW1f3yo1Iyo11yo1520Hz1XI1XI1XI1XI1XI1XI1XI1XI1XI1XI1XI1XI1XI1XI
  1XIX11O112a1440p1Be2B1B12Y11K01215o3bV1bVf3dj1Idj11dj112V1K01215o3iV1iVf3ck1Ick11ck11215o3lV1lVf
  3gk1Igk11gk11215o3pV1pVf3lk1Ilk11lk11215o3tV1tVf3dl1Idl11dl11215o3wV1wVf3kl1Ikl11kl152AFz1YI1YI1
  YI1YI1YI1YI1YI1YI1YI1YI1YI1YI1YI1YI1YI521Fz1ZI1ZI1ZI1ZI1ZI1ZI1ZI1ZI1ZI1ZI1ZI1ZI1ZI1ZI1ZI521Fz1bI
  1bI1bI1bI1bI1bI1bI1bI1bI1bI1bI1bI1bI1bI1bI12Q440p1Be2B1B12P1K01215o3_V1_Vf3Yo1IYo11Yo112P1K01215
  o3aW11aW1f3ho1Iho11ho11215o3dW11dW1f3ko1Iko11ko11215o3hW11hW1f3oo1Ioo11oo11215o3lW11lW1f3to1Ito1
  1to11215o3oW11oW1f3wo1Iwo11wo152AFz1dI1dI1dI1dI1dI1dI1dI1dI1dI1dI1dI1dI1dI1dI1dI320E1uh13sW13qTD
  iMQtW13hJ1iJ8iMo11O1Bth12dp11dp1g2ec1760D7nKZ1mT1dK4YUz11O11mTs1nX11nX11rX13oK1nX1v1nX1820D1uE6k
  ERiFAnH1xE1oH2lOy11O1u1va13oZ13va1v1dY17627g1oKx2oKs1zX11zX14oL1zX1v1zX17618g1nT5eUs2nTs1qX11qX1
  4oH1qX1v1qX18232m1jOh6iY17632l1eUn4ZI7618g1oT5fUs2oTs1tX11tX14db11tX1v1tX18232m1xNh6kY17632l1fUn
  4gb17618g1pT5gUs2pTs1wX11wX14jb11wX1v1wX18232m1zNh6mY17632l1gUn4mb182B1k1082C1Y1076367Xp1Z1aZ11w
  e14Wp1s2aZ1x1082B1k1082C1Y1082A1k1082B1Y108291k1082A1Y10120B1eK4eK3kj11jh1e1Z21a2w11O16Xf11Yf1n2
  Yf112181nN4pN3oj11pj1X401up18gf1f2up182A1k108213i1wN4um1h6gY1120B7kEa1jU6nU1oUw11O1t1_a11_a11uX1
  4_a12_a11214x5Wb11Wb15Wb12Wb182351ye16Yp1b1bZ11Zp13bZ182C1k108251m1Xm182C1k108221m1xg182C1k10822
  1m1.g112D3801.UX4yj112D3801xW1g4tk112219ph112219wj112091cQ6qIX1uIa21O1Lfc1Tja14ja1Rja11211v4gc11
  2098vI1vIDvI2vI1vIEvI2vIZ21O11221v4_f112441eg1r5WZ14WZ1RWZ112441fg1r5XZ14XZ1RXZ112098YB1rJBg1Eg1
  5YCb21O1o3pg11af112578yI1yIDyI2yI1yIEyI2yI82091ud16yORiF5Wg15yO1yO3yOy11O112278xI1xIDxI2xI1xIExI
  2xI12178wI1wIDwI2wI1wIEwI2wI15098_KD_K3sK1sKEdk1b21L_K31m2.a11513d1fMw2yn1p2hf112378zI1zIDzI2zI1
  zIEzI2zI12G19012G19012098tB1rLCrL1rLCrL7rLZ21O1w3dZ112B29tJj7Zf112268dp11yHCyH1yHCyH7yH12D19sJ12
  119nO12119oO12119pO9708h3vT111km11_NKvT21w2jZ1Z1jZ19715h3uN2om1LuNy2qZ1Z1qZ112A51.R4.Rc4Xq180f2X
  q115E78uHDuH3uH1uHEuHw2uHp2015168wHDwH3wH1wHEwHw2wH12085wW14Xl1QzUf21O1f1tZ11tZ1d2tZ182L71td16xO
  R05Xg15xO1xO3xO1508Ky21nY1IfMb21LnY131m2sj1Jcm19774h3eZ12ep11fp1KeZ112741yR4yRc4zj1n2zj115668vHD
  vH3vH1vHEvHw2vH12649al1a5_Z11_Z1d2_Z112U71Zh16bJX1eY1n30Ted14ed1Red112V51oh1u40Tdg14dg1Rdg112241
  vj1r5mq14mq1Rmq182961sd16gNW1gN5gN1gN3gN82171rd16fNW105fN1fN1fN2fN15A4LZPi3ZPp2_k1Jkm11511d7lm11
  2835xo14vo1Qwo11524LqY1i3qY1p2ul1Jvm115g1590CvI10J0u2vI15c1590CyI10J0u2yI15b1590CxI10J0u2xI15b15
  90CwI10J0u2wI15Z1590CzI10J0u2zI12086b52b51b52b59b5Eb5g21O112166c52c51c52c59c5Ec597R5h3_T2ul1L_Ty
  2fa1Z1fa197S1j3xl182071Wa1h1vN1yf1_11O1w1yX11cY112071fa16zEl1fKs11O1Y2_h1VjK12073ef1o1ZUt11GG81.
  2pVFaU15i13O010e3_K12341ga16.K_5Ym1VjH12078tC1tCDtCHeo12tCZ21O11211d1tC76077uOZ1uO1od14uOz11O11u
  O12071sQJn4KxUa217tQH1z2mL82951sa1h1qm11bi1n4.i11Wq112931ha1b6_i1VsL12g148dL1dLj701012148cJ1mg1B
  0Z7qg112931ia1b6jm1VbI76757vOZ1vO1pd14vOs2vO82T61xe16bPb1bP1bP102bP76257WLZ1WL1cT4WLs2WL76157wOZ
  1wO1qd14wOs2wO76157XLZ1XL1dT4XLs2XL12848lF1aOU0l6_g115P68jMDjM3WV1XVE0w2jM82651wd16.Ob1.O1.O3.O8
  2151vd16zOb1zO1zO3zO82151xd16_Ob1_O1_O3_O82151yd16WPb1WP1WP3WP1507Cb58b51b5Ib5b21Lb5311515Cc58c5
  1c5Ic5w2c582351cT6WLb1WL1WL3WL82151dT6XLb1XL1XL3XL76B57p5Z1p51yC4p5s2p576157t5Z1t51WD4t5s2t57615
  7r5Z1r51.C4r5s2r576157q5Z1q51zC4q5s2q576157u5Z1u51XD4u5s2u576157s5Z1s51_C4s5s2s582751yC6p5b1p51p
  53p582151WD6t5b1t51t53t582151.C6r5b1r51r53r582151zC6q5b1q51q53q582151XD6u5b1u51u53u582151_C6s5b1
  s51s53s512e111oa112Y151qQJr1KrW1h2rQk3XI82Y151ua1h1zl11zi1n4im11cr112W129fh1k7af112Z111qa182351v
  a1h1wg11_i1n4rn11nr182151wa1h1yg11Xj1n4tn11qr182m141Xa1i1zf1n4_X11hY112811na112i11d1fo112611pa11
  2258YF1YFDYFHgQ2YF82541Ya1i1.f1n4XY11jY182141Za1i1_f1n4ZY11lY112r123if1o1iUA806n1oSu1kU2kU1sBO1x
  3lc1B806o1oSu1lU1lU1sBO1y3mc112061yh13ih1Gy2u21O1Z3Xi13206Kn4Qo4Czh1o11O1z2lK1506BWOAaX1t21LaX13
  1Cai1126230o1mj11506CZV9bX1t21LbX131Gli115068tNDcX1t21LcX131m3vc11513LdX1i3dX1p3wc112731Wi13lh1Z
  7Zm112068fY1EaVHgMb21O1_3kf11261r1tg112258jJE0JaQm6pf1A0A8D4n1pSu1qK2qKq4.c1B8D4o1pSu1rK1rKr4_c1
  12K410r1qJm4ti1Va212731Zi13mh1Z7vi115958eODrLi3rLp30AWd11271r1ZU12437rO_5Wj1VzA12O2M0HfQ12064sW1
  3qTb31O1Dcq11cq115G3LWl1i3_k1Jkj115F3LjX1i3jX1p3bd11512LkX1i3kX112637.K_5mj1VYH12A31gi13nh1Z7em1
  12068.o1EeLJeLZ21O1q3zc1A8F3n1Xf1u1cZ12cZ1B8F3o1Yf1u1dZ11dZ115D38cp1DyHi3yH12G2c6xj1Vd212D2c6Xk1
  VYB12j138XZ11XZ1k7012d238cL1cLj7015B38uo1DhNi3hN12B2c6.k1VbH9706h3YP111YP1YPKYP2112d4580D0Iak1w2
  0p2rl1C206g1ja17sR2ah1v1sBO1u3hd1D206g1ka18sR2bh1u1sBO1v3id1C224g1la17tR2ch1f6jd1D224g1ma18tR2dh
  1f6kd1C223g1.e17ze12ap1D223g1Wf18_e12bp115h25C08g11g1Ig1w2g112X4480D01uHh301214MwH2wH1wHEwH1214M
  vH2vH1vHEvH1544KsL1sLIsLw2sLA8M4n1uRu1qU2qUq4ud1B8M4o1uRu1rU1rUr4vd132n14Kr1Qs1Cyi1d5lH12f12f1bQ
  m6ug1A8f11n1vRB8f11o1vR12P2c6dm1VkM1212c6mm1VlM1212c6rm1VoM1212c6_m1VrMA864n1mSu1sU2sUq4We1B864o
  1mSu1tU1tUr4Xe1A881n1nSB881o1nSA824n1pRu1uU2uUq4ae1B824o1pRu1vU1vUr4be1A841n1qRB841o1qR12Y221aj1
  3qh112p11r1_g11211r1iU12t121ej13rh112421Zj13sh112221bj13th11205Ken13vh1r21O1ST15051wh1K_W1t21L_W
  13115131xh1KWX1i3WX112051kn1h31O1_2yT1rV12g236hg1F0i301205KdR4s2AdRg21O112y249sTP050m6bf112148lF
  1bY1j7cf1101234Ky240Akf1b6ii11221s7df11241t7ef132X14KiMQyj1CiMd5012i21d1012h21d1012148fEX1wQl6of
  1101211u7zc11231v7qf112931ai1X10b6xi112i42K0j601205n1hJ1iJw11O1u2vf115I410A_QA_Qi3_Q12B48Yg11yUf
  7xf15012146lg12hY11hY1f7012E19rm112E19cg112119dg112319sm112128yo11gR12328zo11hR12736rn12kY11kY11
  214602Zg11vW1g7.f115j42O01012w14M02oJ1oJEfQ12G21hi1c7fm112M38bf1EhVj7Yg112057yBDng1u21O1M_A12p22
  8eLm7012w138iNX1iNm6012N1f1tm112N1f1gg112128_o1X1iN12821ji1c7uj11243MxQJ0l6Zg11211u7zc14205Y1iFA
  mO2oH.11O115E4804ZR9ZRi3ZR15Q3BWRAWRi3WR12Q38ag11.Uf7bg112e11Y1Zk112C38aP1aPW1012K38bg11xW1g7cg1
  15w228hNi7012B21pi1c7om112438jN10DjN12K28pp1EjN12C1Mvm115A3BXRAXRi3XR12A28so11eR12828to11fR15_23
  d10w2oi1p201543BYRAYRi3YR12a129.Tk7rg112a129WY1j7sg11211s7df11231t7ef132s11k1tW112t21d1012T2f1uQ
  l6tg11211u7zc11231v7qf112.42K0j6012819.l112819qg112119rg112319_l11271f1Wm11271f1sg112M2MvQY7yg11
  211u7zc142Z11i1kO1221MZm112729zVj7Wh11211s7df112119wi112119xi11252MYQY7ah11211u7zc14281i1yN1221M
  hf14221i1.N12w23Kjn13Yj1f4i11205Gjl1AeFo21O1NpC12y11d1gQ12i211fj112r111jj112211dj112211gj11204Ko
  Lu21O1j1R1211n5S1211n5uh11211n5U12Y22K0c4cA15g13B0AXX1i3XX11512LgOi3gO12041_h13lj1e31O112b316012
  138Xh13jY1b401221m4uc112737kg1p40IYC1293KuTi4VH012237sY1o1sY1p301582LeX1i3eX11512LfX1i3fX11512Lh
  Oi3hO1512LiOi3iO12537zEo10i5xK12K210c7yi112G27pHp4yK12E31kl130l3ll112b31e101562L.k1i3zk112H21di1
  3qj11261d7Zj11211d7aj112W328hRl7012128gR1gR1233Kg1b1dQk501211v1wU12R1w4bU1261d7jj112237fn1p40Rlj
  115B2LiX1i3iX11231d7pj112N27tY1o1tY112Y12K.i1z4.A1271w4sC12Z31d1082G31da130f1og11572LiTi3iT12O1b
  7b21281d7vj112O1w4zL1221d7wj11221w4YM1211w4c212b31k1042c31Y101281b7eM12127rO.6WB1271d7_j11211d7W
  k112727fOp4XB12H1w4dU1231d7Zk112f31d101221d7bk11211d7fk11211d7kk11211d7pk11211d7qk11211d7rk11291
  w4eU15O2LZl1i3Yl11512LmY1i3mY112G27.K.6ZH1251d7xk11211d7yk112627yKp4aH12Z127uY1o1uY112q31d101572
  LoY1i3oY11251d7Wl112S1w4fM1211w4e21211w4f212S1b7g212M28eR1eR12128iY11iY11271d7Xl112S1w4ZB1211w4a
  B12X11b7bB1243KsLEsLb6012M1w4fU1261d7Yl11221w4gU1221d7Zl11211d7al11211d7bl11241w4hU1221d7cl11211
  d7gl11211d7hl11211d7il11251w4iU1221d7jl11211d7nl11211d7ol11211d7pl11251w4jU1211w4kU1211w4lU12P28
  lY11lY112128fR1fR15Y12LRi3R12n33OYV1YVE01281d7sl112e11w4cH1211w4dH12f127vY1o1vY112k11b7eH1572LpY
  1i3pY112c11w4h212X11w4cB12D1w4mU1211w4nU1211w4oU1211w4pU1211w4qU12D1d7vl11211d7wl11211d7xl11241w
  4rU1211w4sU1211w4tU1211w4uU1251d7yl11211d7zl11211d7.l11241w4vU1211w4wU1211w4xU15L2Ln1i3n112S2OWV
  1XV12Q1w4fH1241w4dB1542LrY1i3rY11221w4yU1211w4zU1211w4.U1211w4_U1211w4WV1211w4XV1572Li6i3i61512L
  k6i3k61512Lj6i3j612a11b7wH12D1w4xH12X421dl1o3el112p51e1012w317rC12i21b7mM1251w4iI1211w4lI12g11w4
  nM12k31i1kO42k31i1kO12B1b7pI1281w4dU1211w4eU1291b7pM1271w4qM1291w4qI1221w4sM1211w4tM1251b7uM1271
  w4fU1211w4gU1211w4hU1211w4iU1211w4jU1211w4kU1211w4lU1291w4vM1211w4wM12A1b7xM1221w4yM1251w4mU1211
  w4nU1211w4oU1211w4pU1211w4qU1211w4rU1211w4sU1211w4tU1211w4uU1211w4vU1211w4wU1211w4xU12D1w4zM1221
  w4yU1211w4zU1211w4.U1211w4_U1211w4WV1211w4XV12f11i1yN42f11i1yN1221i1.N4221i1.N12e61n5g11211n5h11
  211n5j112Y61W5k112i21d7gm11211d7km11211d7nm11211d7pm11211d7qm11211d7sm11211d7tm11211d7um11211d7w
  m11211d7xm11211d7ym11211d7zm11211d7.m11211d7Wn11211d7Xn11211d7Yn11211d7Zn11211d7an11211d7bn11211
  d7cn11211d7dn11211d7en11211d7fn11211d7gn11211d7hn11211d7in11211d7jn11211d7kn11211d7ln11211d7mn11
  211d7nn11211d7on11211d7pn1E903i3sB4xa1K112f32Os21012120qp1O0121200d1.j11212d10Ihh112121Wh1u10121
  210t1.h11241d1_j112126nj1X10121260l3cY112n71801212B0BuX11212M04Xi11291v1dQ1211v1wU1211v1kh11212v
  10x1cY112A1d1Wk1F2I2l3nm11012229yUU012F11ei112111Yh112e71v101261d1Xk112311rj112619vW112G1Bun112J
  16sj1121260Slf11212LrTD012611pg112619mU12211ln1121210e1vX112319aU12Y71k1012A1Bqn112511ki11221Btn
  11211Bvn112311mi11221Bsn112E1Y1Wn112E1LxT12B1f1wX11241Bwn11241Y1hT12a11MpX11211MqX11211MyW11271L
  WU1221Mui11271Bxn11221MrX11211M.W11211MZX11211Mgl11211Mil11211MsX11211MhX112x11OM12c11d1gQ12l11v
  1Yi112s11r3XY11251MtX11231v1ci11211v1fi11211v1ii112q11q3XY11281d1bk1F2q11l3wl112R1f1mX112c119cU1
  2c11i1kO1231f1nX112F1On31271d1fQ12A1v1qi112E1MoX11221v1si11211v1ti11211v1vi11261d1ek1F2D1l3wm112
  B1i1yN1271MzW1F231l3bn11231i1.NE9u21m3za11241MxX11211MyX11211MzX11211M_X1E951m3.a1E911m3_a112K1O
  Z512E1d1gk112G1v1Wj11211v1cj11211v1hj11211v1ij11251d1hk112q11LbU1211LhU1291Oa51251v1tj11211v1uj1
  1211v1xj11211v1zj11281d1kk11271LtT1221d1jk1p3A94J0W40Wl50Wi2BT160m11Wz30_tp101X101Y101Z101a101b1
  01c101d101e101f101g101h101i101j101k101l101m101n181w101x101y101z101.101_101W20DX2P502H265W12.k52.
  h2DR342k13.y32ztp12_dWW11x201y201z201.201W301p301x301y301z301.30Da10TP502P5W12.k52.h2DR342k13.y3
  2ztp12_dWW1Ea10TP502H265W12.k52.h2DR342k13.y32ztp12_dWW1Ca10TP50W1W12.k52.h2DR342k13.y32ztp12_dW
  W11X3P4a10TP502P9_3W12.k52.h2DR342k13.y32ztp12_dWW1509212J2u12Yz_X12A030509212O2p12Yz_X1E086H202
  2272l32.k52.h2DR342k13.y32ztp12_dWW1D086H24362l32.k52.h2DR342k13.y32ztp12_dWW1D086H2D2g13Y22.k52
  .h2DR342k13.y32ztp12_dWW1B9022J0W40Wl50Wi2BT160m11Wz30_tp101A0Ea10C98P502P5W12.k52.h2DR342k13.y3
  2ztp12_dWW11m192Y20W102b20W102l20W102u20W101_201k3060C2X1962q1212cy_X12D0o101m171r301u30Fa10C98P
  502I255W12.k52.h2DR342k13.y32ztp12_dWW11q30Da10C98P50W1W12.k52.h2DR342k13.y32ztp12_dWW12X2P7P5a1
  0C98P502P30X1222u._X140Y12SR5Ray_X150X12222232l._X120b13t._X140b131232l._X14092Z12g13Yz_X13092m2
  3Xz_X12092q__X11m112h10203m1985R52A0.W81Ea10C98P503O5W12.k52.h2DR342k13.y32ztp12_dWW11X3020f12q.
  _X1409212vW83r.tX16a1090398P502P40X122222q._X1609212J222WW83r.tX13A030xW8130b1312q._X1509212N3__
  73r.tX130f1232l._X150Y1252LR5Ray_X13Z10UP7P709212K2SR5Riz73r.tX1Fa10C98P50272G5W12.k52.h2DR342k1
  3.y32ztp12_dWW11f30Fa10C98P50212M5W12.k52.h2DR342k13.y32ztp12_dWW11Z30294J01d301b3039022J01Y301a
  301c301i301j301l301o301s301t301v301e301m301h30j80Ha10H11I02J03K04L05M06N07O08P09Q0AR0BS0CT0DU0EV
  0FW10GX10HY10IZ10Ja10Kb10Lc10Md10Ne10Of10Pg10Qh10Ri10Sj10Tk10Ul10Vm10W1n10X1o10Y1p10Z1q100HT0111
  r102J03K0a1g107O08P09Q0As10Bt10CT0Du10Ev10Fw10GX10HY10IZ10Ja10Kx10Ly10Mz10Of10Qh10R.10Sj10Ul10W1
  n10Y1p10Z1q1000P0211r102J03_10b1g107O08P0As10Bt10CT0Du10Ev10Fw10GX10HY10Ja10Kx10Of10Qh10R.10Ul10
  Vm10W1n10Y1p10Z1q100HY10311I02J03_10a1g105W206X207O08P09Q0AY20Bt10CT0Du10EZ20Fw10GX10HY10IZ10Ja1
  0Ka20Lb20Mc20Nd20Of10Qh10R.10Sj10Te20Ul10W1n10X1f20Y1p10Z1q1000M0411r102J03_10a1g107O08P0Bt10Du1
  0EZ20Fw10GX10HY10IZ10Kx10Mz10Of10Qh10R.10Ul10W1n10Z1q1000X10511g202J03_10a1g105M06N07O08P09Q0AR0
  BS0CT0DU0EZ20Fh20GX10HY10IZ10Ja10Ki20Lc10Md10Ne10Of10Qh10R.10Sj10Tk10Ul10W1n10X1o10Y1p1000S0j211
  g20c1g105W206X208P09Q0AY20Bt10CT0Du10Ek20Fw10IZ10Ja10Ka20Ll20Mc20Nd20Qh10R.10Sj10Te20Ul10d1m20W1
  n10X1f20Y1p1000I0712J03_10b1g106n207O08P0As10EZ20Fo20GX10HY10Kp20Of10Qh10R.10Vm10W1n1000A081e1q2
  0Ek20Fr20IZ10Ls20Mz10R.10W1n10f1g100050t214u20Fo20Rv20Ul10004g1w20h1x212J0Rv20004i1y20h1z217O0Rv
  20005j1.200_202J06W30FX30005k1Y300Z306a307O0Fb30006l1c30m1d30n1e31Fo20Qf30Rg300020e31FW101000Ha1
  0H11I02J03K04L05M06N07O08P09Q0AR0BS0CT0DU0EV0Fh20GX10HY10IZ10Ja10Kb10Lc10Md10Ne10Of10Pg10Qh10R.1
  0Sj10Tk10Ul10Vm10W1n10X1o10Y1p10Z1q10Z301Lh30o1000031i30a1j30Rk30203o1g10R.10W1l30v201Lm30p2026n
  30Lo30p100L00N00502Ap30Lq30s202Br30Ls30900t202Dt30Lu30l102Ev30p1w30m300p309Ex30Gy30HY10q1z30r1.3
  0s1_30t1W40u1X40v1Y40p305Ex30p1Y10r1.30u1Z40v1Y40Z100M00i103Fa40Kb40Lc40e102Ld40Me40j102Lf40Mg40
  002Eh40Ni40z300202o1g10R.10f100005w1j40x1k40y1l40z1m40.1n40g100q201Lo40k300203_1g10R.10W2p40800r
  202Lq40X1r40A00a300Z300500s201Br30t201Dt30002Ev30p1w30u202As40Ft40i100e101Me40j100001z1u40002a1j
  30Rk30v200p2016v40501Aw40l101p1w30i102Kx40Lc40e101Ld40j102Lf40My40002Eh40Nz40q200r201X1.40001Lh3
  0u203As40Ft40L_40i102Kb40Lc4000R0j211g20a1g105W206X208P09Q0AY20Bt10CT0Du10Ek20Fw10IZ10Ja10Ka20Ll
  20Mc20Nd20Qh10R.10Sj10Te20Ul10W1n10X1f20Y1p10l100001Ld40o303X2g10R.10d1m200023W50Y2X50002As40Ft4
  0i101Fa40204Z2q20DY50R.10f1g10003As40Ft40MZ50e1000040t214u20Fo20Ul10001W1l30005w1j40x1k40y1l40z1
  a50.1n40g301g1w200030x212J0Fo20h301i1y200030z217O0Fo20q102a2.206b50q104j1.200_206W30FX30003b2.20
  3W50Y2X50q104c2.206b50Ac50Fd50r102d2Y306e50r104k1Y300Z306a30Fb30003b2Y303W50Y2X50r104e2Y306e50Af
  50Fg50n303f2c30Qf30Rg30n306l1c30m1d30n1e31Fo20Qf30Rg300020e31Fo20003g2f30Rh50Sc30001h2c30.201Li5
  0301h2i30q302o1j30Rk30001z1j50l300Y200k201Lk50a200w201Ll50W200e300.100f300_100001Em50p303p1w30r1
  .30u1n50p302p1w30r1.30p303p1y30u1X40v1Y40001i2o50002j2p50p1q50001y1r50001k2s50001p1y30p300001p1Y
  10m100o201Lt50x200y201Lu50w100W300m202Lv50Mw50x100X301Lx50i300i301l2j40i301y1y50002k2z50W1.50001
  k2_50Z200203m2g10R.10n2W60b200l201LX60002o2s40AY60j301p2t40002k2Z60W1a60k200w200o200m201Mb60X300
  l200X200002p1c60t1d60002Je60Y2f60k101q2Y50n100002k2g60W1h60001b2.20q103r2c506i60Aj60q103s2d50t2.
  206k60001b2Y30r103u2f506l60Am60r103v2g50t2Y306n60001h2f30_200002k2o60W1p60g200f200j200001p1w30p3
  03i2o50u1z30v1Y40001p1q50p302p1q50u1p50p303y1r50u1_30v1Y40p303k2s50u1W40v1Y40e200z200c200n201Lq6
  0i200i301y1j40001k2r60001k2s60001k2j40203_1g10R.10W2t60h200003w2s40AY60Fu60001k2v60001k2w60n2000
  02p1x60Je60001k2y60h100002Je60Y2z60001k2n40001k2.60003x2c50y2s40Aj60q104c2c506i60Aj60F.20j303z2d
  50t2.20y2t40003x2f50y2s40Am60r104e2f506l60Am60FY30j303z2g50t2Y30y2t40001k2_60001k2W70d200001k2X7
  0002k2s60Y1Y70203.2g10R.10_2Z70j300001k2a70002k2w60Y1g10002p1b70Je60002k2c70Je60002Je60Y2d70002k
  2.60Y1j40001k2e70002k2W70Y1j30001k2Y70i302o1g10R.10203W3g10R.10X3f70001k2g10002p1g70Je60002k2h70
  Je60002Je60Y2i70001k2j30203Y3j70o1g10R.10002p1k70Je60002k2l70Je60002Je60Y2m70002Y3j70Z3n70001Je6
  0002k2o70Je60002Je60Y2p70001a3q70002k2k70Je60002Je60Y2r70001W2s70002Je60Y2t70002b3s70n1u70002Je6
  0Y2v70_302b3s70n1u70002Je60Y2w70002Je60Y2x70002Je60Y2y70002Je60Y2z70002Je60Y2.70002Je60Y2_70002J
  e60Y2W80002Je60Y2X80002Je60Y2Y80002Je60Y2Z80002Je60Y2a80002Je60Y2b80002Je60Y2c80002Je60Y2d80002J
  e60Y2e80002Je60Y2f80002Je60Y2g80002Je60Y2h80002Je60Y2i80002Je60Y2k70e600K001n210c320X330d340a350
  e360Z370_280f390g3A0v1B0h3C0i3D0VE0W2F0z1G0j3H0k3I0l3J0002VK0k3L0001i3M0003n2N0f3O0h3P0002a3Q0h3
  R0002f3S0.1T0005n2U0_2V0h3W10i3X10z1Y10001a3Z10003e3a10g3b10v1c10001a3d10001a3e10002a3f10z1g1000
  1e3h10001a3i10004a3j10W2k10z1l10k3m10004n2n10m3o10i3p10l3q10002v1r10Vs10002n2t10h3u10002m3v10_2w
  10001_2x10701l3y10001n2z10001a3.10002V_10W2W20001n2X20001v1Y20003c3Z20e3a20f3b20S00001Vc20002n3d
  20W2e20001f3f20001v1g20001i3h20001h3i20001v1j20001W2k20I00001n3l20P01Vm20001W2n20001W2o20001k3p2
  0001f3q20Q00001W2r20001W2s20001n2t20001n3u20001_2v20001i3w20002_2x20i3y20002z1z20l3.20001n3_2000
  1d3W30001_2X30001i3Y30001_2Z30001_2a30001W2b30001a3c30001v1d30001_2e30001n2f30001a3g30001X3h3000
  1Vi30002Vj30W2k30001z1l30001n2m30001a3n30001a3o30001h3p30001a3q30001Vr30001n2s30K00001g3t30001X3
  u30W400001h3v30001W2w30F00001n2x30y100001f3y30001z1z30X400001W2.30001a3_30001W2W40001Z3X40001VY4
  0001h3Z40001a3a40T00001a3b40001a3c40001v1d40E00001d3e40001f3f40001m3g40001f3h40001X3i40001W2j400
  01o3k40a100001m3l40001Vm40001W2n40001_2o40001Z3p40001z1q40001W2r40H00001i3s40001v1t40001a3u40001
  f3v40C00001W2w40001i3x40001n2y40s300x300001i3z40001_2.40001i3_40001X3W50001a3X50t300001k3Y50v300
  001h3Z50001e3a50001Z3b50c300001a3c50D00001d3d50u100O00U00b100s100G00001v1e50001Z3f50001f3g50001a
  3h50001W2i50001d3j50w300001f3k50001_2l50001W2m50001v1n50001v1o50001X3p50u300001m3q50001W2r50Y100
  001e3s50001_2t50z100R00d100001z1u50001a3v50001W2w50d300400001Vx50001l3y50001h3z50B00001X3.50X100
  .300J00r300b300001v1_50001a3W60001i3X60600t100c100001v1Y60001a3Z60001a3a60V00W100v100001h3b60001
  d3c60001e3d60y300Y300"

def javaScript : Packed := ⟨"javascript", javaScriptSymbols, javaScriptRoles, javaScriptTables⟩

end SymbolIndex.Grammar
