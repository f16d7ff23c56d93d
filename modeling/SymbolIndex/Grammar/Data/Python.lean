import SymbolIndex.Grammar.Packed

/-!
# The grammar of Python

Its symbols, its roles and its packed tables.
-/
namespace SymbolIndex.Grammar

def pythonSymbols : List GrammarSymbol := [
  .hidden "end", .named "identifier", .anonymous ";", .anonymous "import", .anonymous ".",
  .anonymous "from", .anonymous "__future__", .anonymous "(", .anonymous ")", .anonymous ",",
  .anonymous "as", .anonymous "*", .anonymous "print", .anonymous ">>", .anonymous "assert",
  .anonymous ":=", .anonymous "return", .anonymous "del", .anonymous "raise", .anonymous "pass",
  .anonymous "break", .anonymous "continue", .anonymous "if", .anonymous ":", .anonymous "elif",
  .anonymous "else", .anonymous "match", .anonymous "case", .anonymous "async", .anonymous "for",
  .anonymous "in", .anonymous "while", .anonymous "try", .anonymous "except", .anonymous "except*",
  .anonymous "finally", .anonymous "with", .anonymous "def", .anonymous "->", .anonymous "**",
  .anonymous "global", .anonymous "nonlocal", .anonymous "exec", .anonymous "type", .anonymous "=",
  .anonymous "class", .anonymous "[", .anonymous "]", .anonymous "@", .anonymous "-",
  .anonymous "_", .anonymous "|", .anonymous "\x7b", .anonymous "\x7d", .anonymous "+",
  .anonymous "not", .anonymous "and", .anonymous "or", .anonymous "/", .anonymous "%",
  .anonymous "//", .anonymous "&", .anonymous "^", .anonymous "<<", .anonymous "~", .anonymous "is",
  .anonymous "<", .anonymous "<=", .anonymous "==", .anonymous "!=", .anonymous ">=",
  .anonymous ">", .anonymous "<>", .anonymous "lambda", .anonymous "+=", .anonymous "-=",
  .anonymous "*=", .anonymous "/=", .anonymous "@=", .anonymous "//=", .anonymous "%=",
  .anonymous "**=", .anonymous ">>=", .anonymous "<<=", .anonymous "&=", .anonymous "^=",
  .anonymous "|=", .anonymous "yield", .named "ellipsis", .named "escape_sequence", .anonymous "\\",
  .hidden "format_specifier_token1", .named "type_conversion", .named "integer", .named "float",
  .anonymous "await", .named "true", .named "false", .named "none", .named "comment",
  .named "line_continuation", .hidden "_newline", .hidden "_indent", .hidden "_dedent",
  .named "string_start", .hidden "_string_content", .named "escape_interpolation",
  .named "string_end", .named "module", .hidden "_statement", .hidden "_simple_statements",
  .named "import_statement", .named "import_prefix", .named "relative_import",
  .named "future_import_statement", .named "import_from_statement", .hidden "_import_list",
  .named "aliased_import", .named "wildcard_import", .named "print_statement", .named "chevron",
  .named "assert_statement", .named "expression_statement", .named "named_expression",
  .hidden "_named_expression_lhs", .named "return_statement", .named "delete_statement",
  .named "raise_statement", .named "pass_statement", .named "break_statement",
  .named "continue_statement", .named "if_statement", .named "elif_clause", .named "else_clause",
  .named "match_statement", .named "block", .named "case_clause", .named "for_statement",
  .named "while_statement", .named "try_statement", .named "except_clause",
  .named "except_group_clause", .named "finally_clause", .named "with_statement",
  .named "with_clause", .named "with_item", .named "function_definition", .named "parameters",
  .named "lambda_parameters", .named "list_splat", .named "dictionary_splat",
  .named "global_statement", .named "nonlocal_statement", .named "exec_statement",
  .named "type_alias_statement", .named "class_definition", .named "type_parameter",
  .named "parenthesized_list_splat", .named "argument_list", .named "decorated_definition",
  .named "decorator", .named "block", .named "expression_list", .named "dotted_name",
  .named "case_pattern", .hidden "_simple_pattern", .named "as_pattern", .named "union_pattern",
  .named "list_pattern", .named "tuple_pattern", .named "dict_pattern",
  .hidden "_key_value_pattern", .named "keyword_pattern", .named "splat_pattern",
  .named "class_pattern", .named "complex_pattern", .hidden "_parameters", .hidden "_patterns",
  .hidden "parameter", .hidden "pattern", .named "tuple_pattern", .named "list_pattern",
  .named "default_parameter", .named "typed_default_parameter", .named "list_splat_pattern",
  .named "dictionary_splat_pattern", .named "as_pattern",
  .hidden "_expression_within_for_in_clause", .hidden "expression", .hidden "primary_expression",
  .named "not_operator", .named "boolean_operator", .named "binary_operator",
  .named "unary_operator", .anonymous "not in", .anonymous "is not", .named "comparison_operator",
  .named "lambda", .named "lambda", .named "assignment", .named "augmented_assignment",
  .named "pattern_list", .hidden "_right_hand_side", .named "yield", .named "attribute",
  .named "subscript", .named "slice", .named "call", .named "typed_parameter", .named "type",
  .named "splat_type", .named "generic_type", .named "union_type", .named "constrained_type",
  .named "member_type", .named "keyword_argument", .named "list", .named "set", .named "tuple",
  .named "dictionary", .named "pair", .named "list_comprehension",
  .named "dictionary_comprehension", .named "set_comprehension", .named "generator_expression",
  .hidden "_comprehension_clauses", .named "parenthesized_expression",
  .hidden "_collection_elements", .named "for_in_clause", .named "if_clause",
  .named "conditional_expression", .named "concatenated_string", .named "string",
  .named "string_content", .named "interpolation", .hidden "_f_expression",
  .hidden "_not_escape_sequence", .named "format_specifier", .named "await",
  .named "positional_separator", .named "keyword_separator", .hidden "module_repeat1",
  .hidden "_simple_statements_repeat1", .hidden "import_prefix_repeat1",
  .hidden "_import_list_repeat1", .hidden "print_statement_repeat1",
  .hidden "assert_statement_repeat1", .hidden "if_statement_repeat1",
  .hidden "match_statement_repeat1", .hidden "_match_block_repeat1", .hidden "case_clause_repeat1",
  .hidden "try_statement_repeat1", .hidden "try_statement_repeat2", .hidden "with_clause_repeat1",
  .hidden "global_statement_repeat1", .hidden "type_parameter_repeat1",
  .hidden "argument_list_repeat1", .hidden "decorated_definition_repeat1",
  .hidden "dotted_name_repeat1", .hidden "union_pattern_repeat1", .hidden "dict_pattern_repeat1",
  .hidden "_parameters_repeat1", .hidden "_patterns_repeat1", .hidden "comparison_operator_repeat1",
  .hidden "subscript_repeat1", .hidden "dictionary_repeat1",
  .hidden "_comprehension_clauses_repeat1", .hidden "_collection_elements_repeat1",
  .hidden "for_in_clause_repeat1", .hidden "concatenated_string_repeat1", .hidden "string_repeat1",
  .hidden "string_content_repeat1", .hidden "format_specifier_repeat1", .named "as_pattern_target",
  .named "format_expression"]

def pythonRoles : List String := [
  "name", "argument", "value", "code", "operator", "arguments", "function", "operators",
  "definition", "cause", "body", "left", "type", "right", "alias", "attribute", "object",
  "expression", "module_name", "condition", "consequence", "subject", "alternative", "key",
  "parameters", "subscript", "type_conversion", "format_specifier", "type_parameters",
  "superclasses", "return_type", "guard"]

def pythonTables : String := "
  i31n8Cc3d3e3f3g3h3i3a3m19s1Y1K0C0123456789AB2373237303740137337A33793378207337B4237B27827A279174
  456727B2273017e4001101r4001011010002010011100120001310021104000251060001711018100200001101121021
  101210192001A200200022002B00C2002B00D2003B00410D20300n81E2002F20G00017000270171101H1001010020010
  1102E200000103102I1003120Y7001A1002101111019304000d42J10K3001L1003M31A30L1002L01L114000d42A30J10
  300d41A204000d41A3002B10D304000d42A3001002N0022001C2002A30O1002P202001o8002H10Q2002H10R2001M0040
  00d43M40J10K304000d43M41J10K3003J10K30K4004M41A40L10L2150000d41A404000d43M40A30J1003A30A40J1002A
  20A3002A30A4050000d43A40010O2003A30A4001050000d43A40010S2050000d43A40010T2003B00D40C201120002200
  1P1003P20P3120002P01P1102H10Q3002H10R3003H10R30Q200104102I100414000d44M41M50J10K3002M01M1104M50J
  10K30K4004M51J10K30K4001M1104M51A50L10L2102A40A50600000d43A50020O30600000d43A50B10D3004M50A30A40
  J10300d4004A40A50010O20600000d44A50010O30S2004A40A50010S20600000d44A50010T30S2004A40A50010T20030
  00C2024003H10R40Q3002B20D4003B10D30D4005M51M60J10K30K407000000d43A60B20D4004A50A60020O307000000d
  44A60020O40S30600000d44M60A50B10D3004A50A60B10D304000d407000000d44A60010O20U4005A50A60010O30S200
  5A50A60010T30S2003B20D40D5002N112114000d41K307000000d44M70A60B20D4004A60A70B20D4080000000d44A700
  20O30U5005A60A70020O40S3005M70A50A60B10D3005A60A70010O20U4080000000d45A70010O30U50S2004N11N21211
  22104N01N1120121150000d41K4002K30K4050000d42K40V2005M80A60A70B20D4005A70A80020O30U50900000000d45
  A80020O40U60S30600000d4006A70A80010O30U50S2002N2122102K40K50600000d42K50V3003K40K50V20600000d41K
  5006A80A90020O40U60S3003K50K60V3002K50K607000000d42K60V4003K60K70V40wg2111112z5101112z5100112W63
  0L012z5101010fW10010Zf10122z51012u5205110wQ0122z51002u5200110cT0112u5205112z5102112u6200112w6200
  110fW10010ci10112p5101110Zf10010lg10012z5100112i630N112j640m1112j650m1112j650b2112j660b2010Xe101
  12u5200010sZ10110oT0112e7200112e7300112.4200112.4300112.430W1112.4400112.440W1112.4500112.450W11
  12l620A112u6300112v6300112w6300112x6200112x6300112x6400112x6500112z640X1112.640X1112_640X1112W74
  0X1112Y7300112d7200112j8200110mT0010ea10112p5100012k3200012k3300012k3400012X5100012X5200112X6209
  112k7200022z51012u5205010og10110op10110YT0110W60110dq10012W630L012h440f1012h450y1010ao10010xE001
  0Yb10110ci10110h60112y5100010ec10110lg10010tZ10110fT0010.A0010ru10010gX20010_i20010Wj20010Xj2001
  0cm20010dm20010zA0010qB0010aE0010tE0112_530L110vQ0010w40010wI0110.50110_50010cE0010g20010p20110X
  e10110o80012h450f1012h460y1110n80012u5205112d820O022z51002u5200010pg10012z5102012u6200012w620011
  0iT0110xq10110kT0010qU0014010qe10110ea10110_q10010n_10110XT0010fa10010bf10010fb10010Zd20010mo100
  10a50110w60110y90112c8200110j90010_H0110Yb10110t60110d90112k3200112k3300112k3400112X5100112X5200
  112q5200010vX10010rY10010dJ0112y3101112.5206010eJ0112f6200110ec10110wE0112h440f1112h450y1112r520
  0010uZ10112a620B112d820P010ro10010iI0012i430s2012i4400012i440c3012i4500012i460y3012i4700012i630N
  012j640m1012j650m1012j650b2012j660b2010re10010.r20010_r20010Ws20010YE0010sE0010qI0010rI0010cQ001
  0s20012a440a1012a450t1012j440c3012j4500012j460y3012j4700012t710q1012x7200012y7200110Zq10010s5001
  0ga10010rU0012b430f1012b440y1012t720j2110d60112w530M010qo10010hI0012Z440a1012Z450r1012Z450s1012Z
  450t1012Z460i2012Z460k2012Z460l2012Z470W3012c440c1012c450u1012c460n2012d4100012d4200012d430m2012
  f460q2012f470a3012f470b3012f470X3012f480j3012f480k3012f480n3012f490v3012g440e1012g450w1012g450x1
  012g460r2012h460f1012h470y1012k430s2012k4400012l440g1012l450v1012l450z1012l460o2012o4A0Z4012o450
  .1012o460p2012o460t2012o460u2012o470d3012o470e3012o470Y3012o470Z3012o480l3012o480m3012o480o3012o
  480p3012o490w3012o490x3012o490z3012x440i1012x450_1012x450W2012x450X2012x460v2012x460w2012x460x20
  12x470f3012_420C110lT0112b5100010cf10112Y8200110k90010wX10010cZ10011110at10112x330I010sY10110lq1
  0010gb10010qg10010YW20010sH0110Z60112n6100110k60110kR0112h450f1112h460y1110u80110v80112Z5100112o
  6200112b630H112b640l1112c7500112q5300112x5100112r5300010ko10010gW10010hc10010fe10010rg10110tq101
  10kG0110uH0110pq10110_80110lG0110r90010ia10010fi10010_m10012.4200012.4300012.430W1012.4400012.44
  0W1012.4500012.450W1012X6209012l620A012u6300012v6300012w6300012x6200012x6300012x6400012x6500012z
  640X1012.640X1012_640X1012W740X1012Y7300012d7200012e7200012e7300012k7200012j8200110n60110W90110b
  T0010aI0012u5200110e90110kI0010dZ10010jb10010XT0110q60112f6300010z40010se10010u50010bI0010kR0110
  YA0112g540q3010hZ10010qZ10010ha10010n50110jG0110hT0110c90110oR0010sU0110q90110x90110XA0110sB0122
  p51012z5101110lR0112Z8200010no10010m50010YB0110eT0110pT0010hW10010ic10010ge10010sg10010e50110oH0
  110jT0110nT0010xX10010c50010g50010bv10010gy10010ol20010dI0012p5101110uj10110vj10110Xk10110Yk1011
  0Xl10110cl10110bv10110gy10110ek20110ol20110pl20110YG0110pH0112y3100112i8200010tY10010ja10010gi10
  010Wn10110yE0110ZG0112j440c3112j4500112j460y3112j4700112Z5200112a5100010Xs10010Xu10110_E0110nH01
  10pI0112s7200010qW10010hb10010kb10010wl20010XG0110wl20110bF0110zQ0110fS0110nS0110vS0112Z440a1112
  Z450r1112Z450s1112Z450t1112Z460i2112Z460k2112Z460l2112Z470W3112a440a1112a450t1112b430f1112b440y1
  112c440c1112c450u1112c460n2112d4100112d4200112d430m2112f460q2112f470a3112f470b3112f470X3112f480j
  3112f480k3112f480n3112f490v3112g440e1112g450w1112g450x1112g460r2112h460f1112h470y1112i430s2112i4
  400112i440c3112i4500112i460y3112i4700112k430s2112k4400112l440g1112l450v1112l450z1112l460o2112o4A
  0Z4112o450.1112o460p2112o460t2112o460u2112o470d3112o470e3112o470Y3112o470Z3112o480l3112o480m3112
  o480o3112o480p3112o490w3112o490x3112o490z3112x440i1112x450_1112x450W2112x450X2112x460v2112x460w2
  112x460x2112x470f3112_420C112t710q1112t720j2112x7200112y7200010ZB0012d820O110w80110dA0110cF0112y
  4300112y4400112y4500010iZ10010rZ10010po10010fI0112Y5200112p6200112p6201112q6300112s6300110a80110
  ZF0110aF0110hK0110bL0110cR0110nR0110tR0110WS0110wm20110hH0110jI0110_m20110sG0110zG0110iH0110tH01
  10oM0112h6200112Z7100010eZ10010oo10010Y50010at10110X70110om20110cs20110tG0110.G0110aQ0110_Q0110h
  S0110pS0110xS0112j5200110gH0110oI0112b5200112e5200112e5300112e5400112e5500112f5200112f5300112f54
  00112f5500112g5200112g5300112g530h3112g540h3112g550q3112g550.3112k5300112k5400112k5500112k560011
  2l5300112l5400010rW10010cx10010rG0010yG0010zQ0010fS0010nS0010vS0010cT0110wo20112o5100010Za10010a
  a10010an10010vy10010sl20010dT0110gk10110hk10110hl10110vy10110sl20110tl20122p51002z5100112v520511
  2c630H112c640l1112h8200010.40010h50010t50010v50010sn20010ur20010kQ0010cR0010tR0010WS0110mb20110c
  j20110aH0110eM0110yQ0110XR0110rR0110jS0110rS0110zS0010dn10010o50010bu10010w50010W80010oC0110b601
  10g60110fo20110Zq20110mq20110vD0110yD0110zD0110bH0110qR0112c5300112d5200112i5300112b7200010jZ100
  10kZ10010p50110k70110o70110an20110d80110e80110f80110Wp20110op20110yq20110er20110kr20110wD0110xD0
  110.D0110_D0110WE0110lI0110mI0110.Q0110WR0110eR0110gR0110mR0110pR0110vR0110xR0110YS0110aS0110gS0
  110iS0110oS0110qS0110wS0110yS0112Y5300112a740h1112a750.2112a750_2112a760g3010oZ10010Wa10010j5001
  0l50012Y6200012Z6200110X60110c60110e60110j60110Z80110b80110c80110as20110vB0110ZH0110nI0110YQ0110
  fR0110wR0110ZS0112h6100112h6300112w7200010bn10010xQ0012y5100110fO0110dR0110uR0110XS0112Y6200112Z
  6200112r6300112q720R010hg10010jg10010di10010bj10010mm10010in10010jo10010so10010to10012a750h1012a
  760.2012a760_2012a770g3110l70110so20110X90110kA0110sA0010sW10010jm10010x40010Z50010jE0010yE0010W
  I0010vI0010fJ0010gJ0010f20010q20010bR0022z51010cT0022n72000fW11110uo10110Z.10110x60110.60110p801
  10gF0122p51002z5102122q52002w6200122r52002u6200122d820P0wm21012p5100012a620B012d820P010fX10010rX
  10010tX10010cb10010be10010ig10010kg10010ei10010cj10010nm10010jn10010dk20010jn20010rr20010oF0010k
  J0010_Q0010hS0010pS0010xS0022p51012z5101012_530L110dw10110dk20110.70110ll20110_70110Zp20112q3104
  112q320D112w3100112r4200112z4300112z430W1112k6200112k6300112m630k1112y630j1112Z7200122n72000wQ11
  12z7200112b8200122d820P0_Q1122d820P0eR1122d820P0mR1122d820P0vR1122d820P0YS1122d820P0hS1122d820P0
  pS1122d820P0xS1010pn10010eD0012o6200110jv10110i60110p60110ep20110rB0110aR0110mS0110uS0110WT0110s
  T0112r330T112v5200112g730Q112g740Q112g740o1112g740p1112g750d2112g750e2112g750f2112g760z2112.7200
  112W8200010bX10010cX10010gX10010sX10010uX10010mY10010nY10010db10010ce10010f50010Ws10010r50010px1
  0010qx10010r_10010s_10010eW20010fW20010pW20010sW20010tW20010hE0010pE0010rF0010tI0010lJ0010lQ0010
  wQ0010eR0010mR0010vR0010YS0010ZT0010bT0010eT0010gT0010hT0010jT0022z51010_H0022z51010wQ0012g730Q0
  12g740Q012g740o1012g740p1012g750d2012g750e2012g750f2012g760z2110qf10110yk10110vl10110Y60110YY201
  10nY20110va20110h70110j70110m70110p70110vk20110Zn20110Zo20110ip20110h80110kE0110dF0110kF0110sI01
  10jM0110rM0110kO0110ZR0110jR0110.R0110dS0110lS0110tS0110_S0110aT0112p340V112t330E112w3200112z320
  0112.3200112_3200112n4127112s4200112W5300112m5200112n5200112s530I112t550y2122z51010n80112g610011
  2k6400112h7100112l7100112m7100122n72000fW11112a820h3112e820a2010.X10010lZ10010ud10010wd10010mg10
  010qh10010wh10010zh10010Wi10010ej10010mj10010pm10010sm10010xm10010Xn10010gn10010un10010X50010b50
  010q50010x50010gz10010yA0010iD0010lT0010nT0012w530M012.5206012m810n1110nW10110yW10110pa10110xa10
  110qb10110zb10110qc10110yc10110ne10110ye10110ff10110if10110yg10110ah10110mi10110ui10110pk10110qk
  10110ml10110xl10110zl10110_l10110gt10110gz10110l60110o60110r60110s60110u60110v60110y60110z60110w
  70110x70110xl20110X80110Y80110go20110jo20110Xp20110pp20110rp20110aq20110Y90110l90110s90110bI0110
  eI0110gI0110xK0110gL0110mQ0110rQ0110sQ0110tQ0110YR0110iR0110zR0110cS0110kS0110sS0110.S0110rT0110
  tT0112q330D112u3200122z51010o80112X7100112X7200112Z7300112a750h1112a760.2112a760_2112a770g3112o7
  200112q720S112r7206112_7200112X8200112f8200112g8200122k82000at11122l82000gt11010_X10010kY10010mZ
  10010fd10010vd10010xd10010ng10010nh10010xh10010.h10010Xi10010aj10010nj10010tm10010y40010ym10010Y
  n10010hn10010_40010W50010d50010i50010k50010jv10010sv10010wv10010o.10010qW20010rY20010iZ20010kb20
  010g70010am20010bm20010em20010mC0010bE0010uE0010vE0010zE0010pF0010cI0010kM0010r20010vQ0010pT0010
  qT0012m3100012q5200012r5200022z51010om20022z51010xE0022z51010xQ0022z51010XT0022z51010bT0022n7200
  0w41022n72000ao11022n72000ru11022n72000gX21022n72000_i21022n72000Wj21022n72000Xj21022n72000cm210
  22n72000dm21022n72000zA1022n72000.A1022n72000qB1022n72000aE1022n72000cE1022n72000tE1022n72000xE1
  022n72000wI1022n72000g21022n72000p21012p7200022d820P0_Q1022d820P0eR1022d820P0mR1022d820P0vR1022d
  820P0YS1022d820P0hS1022d820P0pS1022d820P0xS1110_V0110d30110kW10110vW10110_W10110WX10110j30110gY1
  0110yZ10110ca10110ma10110ua10110.a10110_a10110nb10110wb10110_b10110Xc10110Yc10110lc10110nc10110y
  30110vc10110_c10110Wd10110ad10110kd10110_d10110We10110je10110Y40110ve10110_e10110Wf10110kf10110n
  f10110tf10110uf10110Wg10110ag10110fg10110vg10110Xh10110dh10110eh10110ih10110ai10110ji10110ri1011
  0xi10110yi10110Wj10110ij10110hq10110dx10110hy10110hz10110xz10110f60110Y_10110Z_10110c_10110j_101
  10ZW20110m60110oY20110.Y20110_Y20110YZ20110fZ20110rZ20110sZ20110vZ20110Wa20110ha20110ia20110la20
  110sa20110jc20110wd20110fk20110gk20110kl20110ql20110rl20110ul20110vl20110yl20110zl20110lm20110vm
  20110ym20110zm20110jn20110un20110yn20110ho20110g80110dp20110i80110rr20110Xs20110q80110x80110f901
  10m90110t90110z90110ZA0110lA0110_A0110aB0110dB0110gB0110iB0110kB0110mB0110oB0110uB0110.B0110WC01
  10YC0110aC0110cC0110eC0110gC0110iC0110kC0110pC0110qC0110_C0110XD0110YD0110lD0110mD0110qD0110rD01
  10eE0110gE0110qE0110rE0110eF0110hF0110jF0110xF0110yF0110wH0110xH0110XI0110cI0110pJ0110_J0110vK01
  10_K0110WL0110aL0110fL0110kL0110lL0110nQ0110oQ0110pQ0110qQ0110hR0110yR0110bS0110X30112l3203112o3
  40U112o360g2112p360h2112s3100112t3216112t3200112t331F112t3316112t341F112t340E112v3200112v3300112
  w3300112z3100112_3100112_330G112_340Z1112W4100112X4100112Y4100112e440i3112e450s3112e450t3112e450
  u3112e460_3112e460W4112e460X4112e460Y4112e470a4112e470b4112e470c4112e480d4112m4200112m4300112p42
  00112p4300112t4200112t4300112u4200112u4300112v4208112v4408112v4508112w442h1112h530j1112m5100112m
  5300112n5100112n5300122z51010u80122z51010v80112d630J112d630K112d650Y2112e630L112k6100112k6500112
  t630I112t630Z2112f7100112n7200122n72000op11122n72000.51122n72000_51122n72000W61122n72000wE1122n7
  2000vQ1112r720Y1112u720b1112v710q1112W820W1112l8200010eV0010fV0010ZX10010WY10010lY10010nZ10010wZ
  10010yd10010zd10010le10010af10010Yg10010sh10010uh10010vh10010yh10010_h10010Yi10010oj10010um10010
  zm10010Zn10010sn10010gt10010eu10010cv10010y50010ly10010yy10010iz10010i.10010k.10010_.10010a_1001
  0yY20010WZ20010pZ20010tZ20010fa20010ja20010hm20010yB0010zB0010uC0010hD0010.E0010XF0010zF0010_F00
  10zH0010YI0010mJ0010vJ0012n3100022x330I0XG0022x330I0rG0022x330I0yG0012Y5200012Y5300022p51002z510
  0012f6200012f6300012j7100012j7200022n72000am21022n72000bm21022n72000em21022n72000.r21022n72000_r
  21022n72000Ws21022n72000mC1022n72000YE1022n72000bE1022n72000sE1022n72000uE1022n72000vE1022n72000
  qI1022n72000rI1022n72000kM1022n72000cQ1022n72000r21022n72000s21022t720j20rF1022t720j20tI1022x720
  00hE1022x72000pE1022k82000at11022l82000gt11012m8200022m82000k.11022m82000g71110A0110a30110b30110
  sV0110c30110WW10110XW10110YW10110iW10110lW10110e30110mW10110oW10110pW10110tW10110uW10110f30110wW
  10110xW10110zW10110.W10110XX10110YX10110g30110hX10110iX10110h30110i30110XY10110hY10110B0110k3011
  0iY10110jY10110oY10110pY10110qY10110l30110uY10110vY10110yY10110m30110n30110pZ10110o30110vZ10110x
  Z10110zZ10110p30110.Z10110_Z10110Xa10110ba10110da10110q30110ka10110na10110r30110oa10110qa10110ra
  10110sa10110ta10110va10110wa10110s30110ya10110za10110Wb10110Xb10110bb10110t30110ib10110lb10110C0
  110u30110ob10110pb10110rb10110sb10110tb10110ub10110vb10110v30110xb10110yb10110.b10110Wc10110Zc10
  110w30110ac10110bc10110cc10110dc10110jc10110x30110mc10110oc10110pc10110rc10110sc10110tc10110uc10
  110wc10110xc10110zc10110.c10110Xd10110z30110Yd10110Zd10110bd10110cd10110dd10110ed10110.30110jd10
  110ld10110_30110W40110ae10110ee10110X40110he10110ke10110me10110oe10110pe10110D0110te10110ue10110
  we10110xe10110ze10110Z40110.e10110Xf10110Yf10110df10110a40110gf10110hf10110jf10110lf10110mf10110
  b40110of10110pf10110rf10110sf10110vf10110wf10110c40110zf10110_f10110Xg10110Zg10110bg10110d40110c
  g10110dg10110gg10110e40110tg10110f40110wg10110xg10110zg10110.g10110_g10110Wh10110Yh10110Zh10110g
  40110bh10110ch10110fh10110gh10110hh10110jh10110h40110kh10110lh10110mh10110oh10110rh10110th10110E
  0110i40110j40110bi10110hi10110k40110ki10110li10110ni10110oi10110pi10110qi10110l40110si10110ti101
  10vi10110wi10110zi10110.i10110_i10110m40110Xj10110Yj10110Zj10110fj10110n40110gj10110hj10110jj101
  10kj10110lj10110o40110sj10110tj10110wj10110xj10110yj10110zj10110p40110.j10110_j10110Wk10110Zk101
  10ak10110bk10110ck10110dk10110q40110ek10110fk10110ik10110jk10110kk10110lk10110mk10110nk10110r401
  10ok10110rk10110sk10110tk10110uk10110vk10110wk10110xk10110F0110s40110zk10110Yl10110Zl10110al1011
  0bl10110t40110dl10110el10110fl10110gl10110il10110jl10110kl10110ll10110u40110nl10110ol10110pl1011
  0ql10110ul10110wl10110yl10110.l10110im10110qm10110rm10110en10110fn10110ln10110mn10110qn10110rn10
  110vn10110wn10110G0110eo10110fo10110wo10110xo10110yo10110zo10110H0110ht10110zt10110I0110gu10110u
  u10110cv10110mw10110tw10110uw10110vw10110xw10110Wx10110Xx10110z50110Yx10110gx10110J0110lx10110xx
  10110Yy10110ey10110ly10110my10110sy10110yy10110Wz10110bz10110cz10110a60110fz10110iz10110jz10110l
  z10110uz10110yz10110.z10110a.10110b.10110c.1011020110K0110n.10110p.10110q.10110x.10110y.10110z.1
  0110..10110_.10110W_10110a_10110b_10110d_10110e_10110f_10110g_10110h_10110i_10110k_10110w_10110z
  _10110WW20110bW20110kW20110lW20110cX20110iX20110kX20110lX20110mX20110L0110qX20110uX20110xX20110y
  X20110_X20110WY20110jY20110pY20110qY20110sY20110tY20110uY20110vY20110wY20110xY20110yY20110zY2011
  0WZ20110XZ20110ZZ20110aZ20110bZ20110cZ20110dZ20110eZ20110gZ20110hZ20110jZ20110kZ20110lZ20110mZ20
  110nZ20110oZ20110pZ20110qZ20110tZ20110uZ20110wZ20110xZ20110yZ20110zZ20110.Z20110_Z20110Xa20110Ya
  20110Za20110aa20110ba20110ca20110da20110ea20110fa20110ga20110ja20110ka20110ma20110na20110oa20110
  pa20110qa20110ra20110ta20110M0110ua20110ab20110bb20110_60110ub20110_b20110W70110bc20110dc20110gc
  20110hc20110mc20110Y70110tc20110wc20110xc20110Z70110a70110b70110pd20110sd20110ud20110N0110c70110
  yd20110We20110Ze20110ae20110be20110d70110ce20110ee20110fe20110ge20110he20110je20110le20110e70110
  ve20110f70110xe20110ye20110Wf20110gf20110nf20110of20110sf20110i70110O0110n70110q70110r70110s7011
  0t70110u70110nj20110qj20110rj20110wj20110Wk20110P0110bk20110ck20110hk20110jk20110lk20110nk20110p
  k20110sk20110y70110yk20110_k20110Wl20110Xl20110z70110dl20110el20110gl20110hl20110jl20110ml20110n
  l20110bm20110em20110rm20110xm20110Q0110fn20110kn20110wn20110co20110no20110zo20110lp20110vp20110w
  p20110Wq20110j80110fq20110R0110k80110jq20110rq20110l80110vq20110m80110Xr20110br20110jr20110lr201
  10_r20110Ws20110Zs20110r80110s80110t80110S0110y80110z80110.80110T0110Z90110a90110b90110g90110h90
  11030110U0110i90110n90110o90110p90110u90110v90110w90110.90110_90110W10110WA0110aA0110bA0110cA011
  0eA0110X10110gA0110hA0110iA0110jA0110mA0110nA0110oA0110pA0110Y10110qA0110rA0110tA0110uA0110vA011
  0wA0110xA0110Z10110WB0110bB0110a10110eB0110hB0110jB0110lB0110nB0110b10110pB0110tB0110xB0110c1011
  0_B0110XC0110ZC0110bC0110d10110dC0110fC0110hC0110jC0110lC011040110e10110nC0110rC0110sC0110tC0110
  vC0110f10110wC0110xC0110yC0110zC0110.C0110WD0110ZD0110g10110bD0110cD0110fD0110gD0110jD0110h10110
  kD0110nD0110oD0110sD0110tD0110i10110XE0110j10110ZE0110dE0110fE0110k10110lE0110mE0110oE0110l10110
  m10110WF0110YF0110fF0110n10110iF0110nF011050110o10110vF0110wF0110p10110.F0110WG0110bG0110q10110e
  G0110hG0110iG0110nG0110r10110oG0110pG0110qG0110uG0110vG0110wG0110xG0110s10110_G0110WH0110XH0110Y
  H0110t10110cH0110dH0110eH0110fH0110jH0110kH0110lH0110u10110mH0110qH0110rH0110vH0110v10110yH0110w
  10110x1011060110uI0110xI0110XJ0110z10110jJ0110nJ0110oJ0110qJ0110rJ0110tJ0110yJ0110zJ0110.J0110WK
  0110XK0110ZK0110aK0110dK0110iK0110jK0110lK0110mK0110pK0110tK0110uK0110wK0110yK0110zK0110.K0110XL
  0110YL0110ZL0110cL0110dL0110eL0110hL0110iL0110jL0110mL0110nL0110oL0110sL0110uL0110wL011070110zL0
  110XM0110ZM0110bM0110fM0110hM0110lM0110nM0110pM0110qM0110uM0110vM0110yM0110zM0110YN0110aN0110bN0
  110eN0110hN0110jN0110h20110nN0110pN0110tN0110i20110xN0110_N0110j20110ZO0110cO0110hO0110k20110iO0
  110jO0110nO0110oO0110rO0110l20110sO0110xO0110zO0110.O011080110m20110XP0110aP0110cP0110n20110gP01
  10iP0110mP0110o20110qP0110uP0110yP0110_P0110ZQ0110bQ0110dQ0110t20110u20110v2011090110w20110x2011
  0y20110z20110.20110qT0110_20110W30110pU0110Y30110tU0110Z30112i3000112i3100112n3200122x330I0ZF012
  2x330I0jG0122x330I0ZH0122x330I0gH0122x330I0nH0112m4100112m4400112m4500122n41270dA0112q4100122o72
  000v41122p72000qX21122q720S0uc21122q720S0de21122r720Y10qF1122s72000dF1122s72000aG1122s72000mG112
  2s72000.H1122s72000ZI1112u720d1122u720d10sF1112v720j2122v720j20yk11122w72000.k11122w72000_k11122
  w72000Wl11122y72000kF1122y72000sI1122z72000iE1122z72000nE1122.72000Zn21122_72000v71122W82000fA11
  22X82000wE1122Y82000ym21122Y82000go21122Y82000Xp21122Y82000pp21122Y82000aq21122Z82000vl11122Z820
  00xl11122Z82000zl11122Z82000_l11112a820r3122a820r30rl11122b82000.o11122b82000Wp11122c82000eQ1122
  c82000fQ1122c82000gQ1122c82000hQ1122c82000iQ1122c82000jQ1122d820P0mQ1122d820P0nQ1122d820P0oQ1122
  d820P0pQ1122d820P0qQ1122d820P0rQ1122d820P0sQ1122d820P0tQ1112e820c2122e820c20aD1122f82000wB1122g8
  2000_m21122g82000as21122g82000cs21122g82000jF1122g82000xH1122g82000XI1122g82000oM1122g82000YQ112
  2g82000aQ1122h82000XB1122h82000cB1122h82000fB1122i82000dD1122i82000pD1122i82000uD1122j82000op111
  22j82000Zq11122j82000dq11122j82000lq11122j82000pq11122j82000tq11122j82000xq11122j82000_q11112k82
  00122k82000X71113ds2010h30v31v31v31v31v31v31v31v31v31v31v31v31v31v31v31v31v31v31v31v31v31v31v31v
  31v31v31v31v31v31v31v31v31v31v31v31v31v31v31v31v31v31v31v31v31v31v31v31v31v31v31v31v31v31v31v31v
  31v31v31v31v31v31v31v31v31v31v31v31v31v31v31v31v31v31v31v31v31v31v31v31v31v31v31v31v31v31v31v31v
  31v31v31v32v31v31v31v31v31v31v3111l81v31v31v31v31v31v31v3120m30zd21Z32s22r22a34X31e32_22z21.21y2
  1t21u21v21jY14pY12iY11oY12kY11eY14hY11fY13w21x21c31d32gY11b32x4193b2291h2999g2Eq21G561G1Y3161616
  11114Z24fm21.11.11cb23cb21cb24cb22cb21cb21Xp11gm21cb21cb21cb21cb21cb21cb21.13.13.11.11.14.13.15c
  b21cb21cb21cb21.14.11Zt1Jbo11co11co13hJ2Xp12Yt11uT1Xp11Xp11fW11fW13Xp11Xp12Yj21Yj21vo12Yj21iJ1iJ
  2fW19fW11fW11fW11fW12fW11fW11fW11fW12fW14Xp11fW11vT6fW13.1GZt1131h100Mr54u52q51t52s51m54p51o58n5
  w1fc1501W21W21.f23.f21.f24.f22.f21.f23.f21.f21.f21.f21.f21.f21W23W23W21W21W24W23W25.f21.f21.f21.
  f21W24W21fu11lt1m2W2Gfu1131Ed3oG6Y21Y2LY23Y23Y21Y21Y24Y23Y29Y24Y22zIm2Y21311X5qL1311X5XN1311X5ZN
  1311X5gN1311X5mN1311X5oN1311X5qN1311X5sN1311X5vL131Ed3cW16Z21Z2LZ23Z23Z21Z21Z24Z23Z29Z24Z22YKm2Z
  21321X5vN1311X5yN1311X5zN1311X5gM1311X5xL1311X5WO1371X5bK131Ed3re16a21a2La23a23a21a21a24a23a29a2
  4a22cKm2a21331X5YO1311X5yL131Ed3XP6c21c2Lc23c23c21c21c24c23c29c24c22kk2m2c21321X5bO1311X5dO1331X
  5mk21311X5ok21331X5eO13A1X5fK13A1X5gK1341X5qk21311X5rk21311X5tk2131Ed3pG6b21b2Lb23b23b21b21b24b2
  3b29b24b22ZJm2b21311X5_L1311X5wO1311X5yO1311X5ZP1311X5fP1311X5hP1311X5jP1311X5lP1311X5aM131Ed3dW
  16d21d2Ld23d23d21d21d24d23d29d24d22kKm2d21321X5oP1311X5rP1311X5sP1311X5iM1311X5cM1311X5vP1371X5n
  K131Ed3ve16e21e2Le23e23e21e21e24e23e29e24e22oKm2e21331X5xP1311X5dM1311X5.P1311X5WQ1311X5XQ1371X5
  rK1371X5sK13x11X5iu112z1E0.d2i301_11_1L_13_13_11_11_14_13_19_14_1o2_1121i10_g11lZ12YZ12XZ12Xh14b
  h11nZ12jZ12gZ11hZ11eZ11ZZ11aZ11bZ11rj14xj12pj11vj12sj11hj14nj11ij13cZ11dZ11iZ11mZ12jj11Yh12ah11l
  P3Zh12lP1kZ19lP9WZ1EfZ11rT5wN1rT1_Y11wN1wN1wN6Wh1133Ed3Zy16X21X2LX23X23X21X21X24X23X29X24X220m2X
  2132f100Mtj14yj12qj11wj12uj11kj14oj11mj18lj1w1_g16X21X21.f23.f21.f24.f22.f21.f23.f21.f21.f21.f21
  .f21.f21X23X23X21X21X24X23X25.f21.f21.f21.f21X24X21fu1n2X2Gfu11321d3ta21311d3Wb21311d3Zb21311d3c
  b21311d3b.11311d3fb21311d3ib2240d31kK12253lT2nB151yY11T152s4751yO3o22T259wY13T1jK1eC2xt1251vN251
  k22vN1vR15151515151515151B15151212121215121Z41I1I1I1I1I1I1I1I1I1I1I1I1I2J571J1a41717171111123c2J
  gr11to2W1_z1S.d12gr12_r11zT1gr11gr11Zf11Zf13gr11gr17Zf11Zf12Zf12nX21tz11tz11tz11tz11tz12Zf11Zf11
  Zf11Zf12Zf11Zf11Zf11Zf12Zf14gr11Zf11xU6Zf12413NeCNtW1k3035Dk1001pN6zN4uN1tNA04rN2qN10201040102eH
  3mN1sN201.N20l1kN6hc21px1701xNL0303010104030904010OwJ4vp1GxJ1xJ4d.11tz11tz11tz11tz11tz1R0G03513b
  3ic21mz18_N3513b3kc21g.18ZO3513b3lc21i_18cO351Jb3cd21kZ28qP1.f23.f21.f24.f22.f21.f23.f21.f21.f21
  .f21.f21.f2L.f21.f21.f21.f23513b3dd21xZ28uP3513b3ed21Wa28yP3513b3fd21Ya28_P249y11iB6qg14.Y11u31l
  Y1Db62u3B53u31b63rg13wR3b22wR1xY1999g2FG561G1zA1616166Z2GjX23Xp11gm2y1aX12Xp12bt11uQ1Xp11Xp11fW1
  1fW13Xp11Xp17fW11fW12fW12010101010102fW11fW11fW11fW12fW11fW11fW11fW12fW14Xp11fW11vT6fW12411NyO24
  BB1_4AzY1S54o2n4su1L010101010102411y5aw1155e11Z36a34X31e3Eu42r4B03c31d33b3n1Y36kt11ru18ht11Zf23Z
  f21Zf24Zf22Zf21Zf23Zf21Zf21Zf21Zf21Zf21Zf2LZf21Zf21Zf21Zf2UhJ4Yt1GiJ1iJ401010101010151Jb3ca21o_1
  8xI1cb23cb21cb24cb22cb21cb23cb21cb21cb21cb21cb21cb2Lcb21cb21cb21cb21513b3jb21iX28oL1513b3yb21vY2
  8uM1513b3zb21aa28vM1513b3_b21nb28zM1513b3Wc21yc28YN1513b3Xc21md28aN1513b3Yc21ck18bN1513b3ac21al1
  8hN1513b3kb21mm18sL151Jb3pa21co18XK1og23og21og24og22og21og23og21og21og21og21og21og2Log21og21og21
  og21523b3bc21Xq18jN1513b3dc21Ys18nN1513b3ec21ct18pN1513b3sb21jt18fM1513b3lb21mt18uL1513b3fc21.t1
  8tN1573b3qa21su18ZK151Jb3ra21qv18aK1ah23ah21ah24ah22ah21ah23ah21ah21ah21ah21ah21ah2Lah21ah21ah21
  ah21533b3mb21gy18wL151Jb3pz11az18hk21lh23lh21lh24lh22lh21lh23lh21lh21lh21lh21lh21lh2Llh21lh21lh2
  1lh21513b3qz11t.18jk21513b3rz11e_18lk21563b3sa21p_18dK1523b3sz11z_18nk21513b3tz11ZW28pk21513b3uz
  11iW28sk2151Jb3da21qW28XJ1.f23.f21.f24.f22.f21.f23.f21.f21.f21.f21.f21.f2L.f21.f21.f21.f21513b3o
  b21tW28zL1513b3qc21zW28nO1513b3rc21XX28oO1513b3uc21cX28sO1513b3vc21jX28xO1513b3wc21pX28zO1513b3x
  c21xX28.O1513b3_c21XY28aP1513b3pb21dY28XM151Jb3ua21fY28jK1wh23wh21wh24wh22wh21wh23wh21wh21wh21wh
  21wh21wh2Lwh21wh21wh21wh21523b3Wd21jY28cP1513b3Yd21nY28gP1513b3Zd21oY28iP1513b3tb21sY28hM1513b3q
  b21wY28ZM1513b3ad21zY28mP1573b3va21XZ28lK151Jb3wa21cZ28mK1bi23bi21bi24bi22bi21bi23bi21bi21bi21bi
  21bi21bi2Lbi21bi21bi21bi21533b3rb21pZ28bM1533b3xa21Za28pK15n13b3nt11ea28gu1141Jb3oe110801jj23jj2
  1jj24jj22jj21jj23jj21jj21jj21jj21jj21jj2Ljj21jj21jj21jj21411b3oa21411b3gc11411b3ky11411b3pe11411
  b3_a21411b3qe11411b3Yb21411b3se11411b3bb21411b3jc11411b3a.11411b3te11411b3eb21411b3ue11411b3hb21
  211b3024d2Q166.84qR1f915DvB2f9Ef91vB3_83kR5kR15I0MbJP03010.10201WU10105010X102411NyO44c2Z2171C2X
  23j32C1k31wA1W41X2207k31C3g82W42k39X23W41g81k32g32X21nI2X23nI1k31k31k31X21X21X21X21X21X22k31k31C
  1C1C1C1k31C101C1C1C1C1C1C1C1C1C1C1C1C1C9rB6CM010.10201zX110105010X10342S554242A5G255421922395212
  121212B01010101010101010101010105412F082543P5k388Q8981B283B5818181818B01010101010101010101010103
  63k11m210302kB2nB2rR1g9EwB2g9Eg91wB3YB3t33xA121t3At3Ow4421m21w41cJ1m21m21m2303j9m2gd15rV3ec11ec1
  Bec11ec12ec19ec11ec11ec11ec12ec11ec11ec11ec12ec15ec11lU6ec156262030Ok3OCd1C90362192371k11R6gB123
  uR1h9B03xB2h915Dh91xB1sO2i83a23f6101a2Aa2Of3401R1f31eJ1R1R1R6Y6m2eg15eX13Xe11Xe1BXe11Xe12Xe19Xe1
  1Xe11Xe11Xe12Xe11Xe11Xe11Xe12Xe15Xe11uU6Xe1323X1455215322s47515254015925542322025151515121212121
  22515121212121512K0384z11H6e4281X21mU1r93s47X21k33wC2r92X2Cr91wC102c4182U3b4101U1X21X21X27U1X21X
  2181818181X218Gj2401H1j21yJ1H1H1H6y3m2Zi15id13ci11ci1Bci11ci12ci19ci11ci11ci11ci12ci11ci11ci11ci
  12ci15ci11bZ16ci1364h11i26lB4rY11vAEiD2vA15DvA1iD102oA3r33nA2r3Ar3Og4401i21g41lK1i21i21i26m9m2Ya
  15hV3Yb11Yb1BYb11Yb12Yb19Yb11Yb11Yb11Yb12Yb11Yb11Yb11Yb12Yb15Yb11iU6Yb1365V4X2581X2389X21k36k31X
  298504838282X21X21X21X218181818182X21X2181818181X218K0374g11K6n9123tR1i9D01yB2i9Ei91yB3i43t13h42
  t1At1On25K1n21dJ1K1K1K6s3m2.f15xY13lg11lg1Blg11lg12lg19lg11lg11lg11lg12lg11lg11lg11lg12lg15lg11a
  W16lg157838Cj10d10384g11u16jB4nU1q9EvC2q9Eq91vC3p9122p23w8101p2Ap2Ox35u11x31wJ1u11u11u16p8m2gc15
  _U3ea11ea1Bea11ea12ea19ea11ea11ea11ea12ea11ea11ea11ea12ea15ea11fU6ea15692F082374U4X248181X2389X2
  106k31X2985048384X21X21X21X218181818182X21X2181818181X21837A38nB1nBZ10525380Hk34038539nBE0OnB52C
  2F08237E1i105882F08256D2F08244Oh12I255I1035901I70955I453540101015151515151520101010101010102I1I1
  I1I1I1I1I1I1I1I1I1I1IFI58C380a103C38HT4552153295156015928212324515151512121212122515121212121512
  57F2F08237G2N0LsO3781F05842F082427220Z3042W1H2080C080ECB010108010101010101010T038By11ih1303fN201
  01wi11q41090103o82q410109oI3q41hh14ta110304qA101010101010101020101010101010101qBE.F8ZCSwp11fp2Pk
  d28kd2Twp12_o11sR1wp11wp15wp11wp16kd26rw11v_11v_11v_11v_11v_1Dyo23wp1175z11tL303zL1fa210101yC1aB
  10904cG2aB1010903aB1cG3.L20304t8101010101010101020101010101010101e9EsB8vLSst11Wo2Peb28eb2Kjm22fb
  21uk21uk23Ye12st12qp11yT1st11st15st11st16gb21Ze11Ze1Mkm23st1182R1uL6_L4_G1bBEdG2bBB03bB1dG3WM1ga
  2m1wLo2pm22ld21bl21bl23xf14rp1Gyf11yf1401010101010Dqm236Du11XC303_N2e.1101oN1p41090103j82p410109
  cD3p41j850302kk12dC101010101010101020101010101010101aHEzJ8YCSds11xp2Pne21lb27ne2Tds12Yp11_R1ds11
  ds15ds11ds16ne2Htu17sm23ds117378.n1j4qb28rb2KXo2Bbq1Faf2OYo212f1c130207r420201010101010J0101r41u
  4a203010402010301010101010L01010108kj2Hlo19it1Bkj21kj21ho11kj21kj21215Y5lj2b1lj21lj22lj21lj21215
  Y5Xk2b1Xk21Xk22Xk21Xk217748.s1q5fq1F_f2Ovo21874l1_n1Y4ao2BXr1d1bo236769k.1i1Xo1X3bf2c1hp1W1zv17d
  o217378_o1j4ef28ff2Kuo2Bjq1Fpg2Ohp217448im1q5rq1Fmh2Ohq218B3l1_s1j4Yr1d1yo236469m.1i1mo1X3Wg2c1i
  p1W1.v17.o217728Yt1f5Xo21834l1Wp1Y4xo2BZr1d1kp236369n.1i1zl1X3qg2c1jp1W1_v17mp217A18vq11863l1km1
  j4br1d1iq236369q.1i1lm1X3ch2c1kp1W1Ww17Xq217328at1f5uo21892l1Zt1Y4ao236369v.1i1an1X3nh2c1lp1W1Xw
  17kq217328ys1f5gp218C1l1xq136369y.1i1fp1X3yh2c1mp1W1Yw17wq217328_p1f5yp21832l1bt1Y4xo236369_.1i1
  bq1X3di2c1np1W1Zw17cr217T18la21832l1zs1Y4jp21812l1Wq1Y4.p218V1l1ma264Z1k11zT1v4203nV202qY11xM10A
  v43kO2xMB03xM1kO1v42qV2030701010101010Bv41v41v41v41v41v41v41v41v41v41v41v41v49hU6v4k2nn11kn11kn1
  3ph15.m1Fqh11qh1641H2yALyALyAUyA1yA1yA1yA1yA1yA1yA1yA1yA1yA1yA1yA1yAFyA12Ty11fX16rb14tB1fOEsQ2fO
  EfO1sQ3xb13t33xA2t31fG9t39eGEzJ1w45m21w41xX11m21m21m26j9Jms11gq2c1wz1Hgj25Zb12ms12er11eS1ms11ms1
  1ec11ec13ms11ms120101wz1101wz11ab11ab12ec19ec11ec11ec11ec12ec11ec11ec11ec12ec14ms11ec11lU3wz13ec
  138e1r11rI3050101vI1Y21090103n32Y2209oI3Y21qI4nb110304Z5101010101010101020101010101010101Y5MZ6Sv
  s11Yr2.1vs12bs11oU1vs11vs15vs11vs1Cm.11v_11v_11v_11v_11v_1Gvs13811l1_t13811l1ob13811l1au13811l1w
  b13811l1iv13811l1pb13811l1ju11294Y5vW2d1vW22vW2W1vW217JJ1cB6WG1sa14_3Ea62_3E_31a63i8n1dBo1xb2W10
  2010103eg14tp1GXe11Xe162DJ1XU105jV4sY11zMEmO2zMEzM1mO3mVn1iU60k2go11co11co13dj15.n1Fej11ej132f1W
  11qQ6.84pR1u3Eb62u3BmS3u31pQ3_8f108zAZ20H010103aX14fr11uQA0101010101fW11fW14lw11tx11tx11tx11tx11
  tx1373K1iN7pk11h.12nN1gDEfI2gDBl93gD1fIi108lNo104Yc21Yc27Zc2Vup1F0CYc2C03262l10Y5rw132c5o120203j
  320101mM20207010709eH502g3201B203B1f41010101010101010201010101010101020101010101010101010101010F
  0i3d.13241n6e.13221n6f.137x1r11.A303sA1za11zc1101WB1w31020704l52w3209l93w31l51040304i61010101010
  10101020101010101010101h6M_ASrr11sq2Pbg21bg27cg2Trr12.u11.T1rr11rr15rr11rr1Ibg2Frr1628FNyALyAUyA
  1yA1yA1yA1yA1yA1yA1yA1yA1yA1yA1yA1yA3231n6zc23211n6Wd23211n6Yd23211n6bd232A1n6m.13291n6Zy13211n6
  ay1329N1vQ6n910102sR1X4Eq82X4BnS3X41uQq1zBs101070Vpr1Lcy11_y11_y11_y11_y11_y1103211n6l_13251n6._
  13211n6__116MR1ZH4zi12kB2iM3k8BiM3uA2k8Ek81uA1iM2YB7iMY105iM3bHZ2jW2H010103gd14qr1D0201ec11ec1U0
  3241n6dz13211n6ez137L78bo11l.1i4kf21kf27lf2Vcq1Rkf237178za11zc1i4bg21bg27cg2Vgq1Rbg237178Ym11o.1
  i4tg21tg27ug2Vkq1Rtg237178sm11s.1i4fh21fh27gh2Voq1Rfh237178gn11w.1i4qh21qh27rh2Vsq1Rqh237178kp11
  ..1i4_h21_h27Wi2Vwq1R_h237178gq11W_1i4gi21gi27hi2V.q1Rgi232B1n6mz13211n6nz13211n6oz132L1n6ti2321
  1n6ui23211n6vi23211n6wi217c12n40h1fq118r2B1uCA_GS04o8n4Yr1L0101010101017268aa1j4Yg28Zg2Vnq1Fbh2O
  zp237X178_Z110i4Yk21Yk27Zk2V.w1RYk237118Wa137118xk137118yk117748.k1q5qp1Fgb2Okm21873l1_k1j4rp1d1
  qm217268Zb1j4qb28rb2Vbq1Faf2OYo237418xa137118ya137118ko137118lo117748Xb1q5vq1Fxh2Otq21873l1xl1j4
  ar1d1_p217268la1j4ef28ff2Vjq1Fpg2Ohp237418_a137118Wb137118yo137118zo117C2r4eb28eb21873l1Xp1j4cr1
  d1uq21792r4qb28rb237418da137118ea137118gm137118hm117748fb1q5zq1Fci2OZr21873l1dp1j4Xr1d1bo21722r4
  ef28ff237418ia137118ja137118Xn137118Yn117J2r4eb28eb21873l1dn1j4Zr1d1kp217Z148ra1q5rq1Fmh2Ohq2374
  18oa137118pa137118nn137118pn11752r4eb28eb21873l1aq1j4dr1d1ar237318cb137118db137118sp137118tp117k
  12r4eb28eb21863l1xn1j4br1d1iq237318ib137118jb137118oq137118pq1171H1hD7kP3ZW11X4Eq82X4B03X41q8i1s
  B8zBs1sj2107sj2Vow1Fsj2C017118wW1323180179F7gB1xW13_BBZN6ZN1ZNi1WNE0.1080Uw.11ot1Aw.150O017148yW
  1EaN6aN1aN17148zW1EbN6bN1bN17148.W1EcN6cN1cN18Y2H1r86XW14aW1S04n34kPe1.F.1Yl28Yl2VXy1FYl26010101
  0101016l28504gGEgGLgG9gGd1gGc20QZs11821l1wW116259oLEoLLoL9oLd1oL18GF7jB4WCBZN6ZN1ZNIxW1QXNE0.108
  0Uq_11Wu1Aq_150O01814MaN6aN1aNIyW11814MbN6bN1bNIzW11814McN6cN1cNI.W1165C7YW1202bW1C0L09kPY1zJ50v
  1il28il2Vty1Fil21611r1wW116.3J7lB202uBBZN6ZN1ZNA0ExW1KYNE0.101070UdW21au1AdW250H0701614MaN6aN1aN
  OyW11614MbN6bN1bNOzW11614McN6cN1cNO.W156i5K9I10C01I2050EI9I2010108010101010101010KI14Y3F1iB1nf13
  ui16pAS04b6w1nf1z1hb2Q.r1L0101010101014152iM3vi1W3iMz1fj2Qft136l2E1_4AwAScD4o2A.Z1X3yj2c1g.1L010
  101010106yj23611r1wk112P180171B5xi12n91iM1iM2fBi20.10805xk2Qdv1F018JB5yi12e42iM2e8a1iMe10.10805c
  l2Qkv1F03641r1wa13611r1jo112M1l103621r1.a13611r1xo112I1r103621r1ca13611r1fm13611r1ga13611r1zm136
  11r1na13611r1mn13611r1bb13611r1rp13611r1hb13611r1nq114M52mf130W3mf1z1aj2Qdt114152gG3aj1W3gGz10Qj
  t118J6504wg1EuX2Owg1p30Q_u114232oL3bj1W3oL182590EmBOia2j4Zv1Iak218349gPE.d1OgPj4av13271r101831l1
  ka257W168XJ1XJEXJL090d1057138C1CEC1831l1rl11811l1ul11811l1Zl11811l1dl11811l1Zp11811l1cp11811l1.m
  11811l1Zn11811l1hk11811l1jk11811l1rn11811l1tn11811l1vp11811l1yp11811l1sq11811l1uq11811l1zq11811l
  1_q112M87gS4.3S0f3nm21jb250c1ew1W101211m4Yn232L4801IE07eC14S32aT30W3aT1253l10j4kt1Iac214232ZTZ3Z
  Tt2yu114122gf1Z3gf112647j3GZg1v301vj252S18014622lf1Z3lf114422if1Z3if114122hf1Z3hf117w16503vc110e
  4Zl2H0Qsx11261Nag118b12N0b5_w112o2680E06_310.4Zx1BZx117418j.118339hPc1hPj4fx11232x5hx1Bhx118239n
  Tc1nTj4mx112L1l101233x5v.11qt1Av.11213x5X_11rt1AX_11252x5w.1Bw.137M28IM017948gG1gGe40h1ry117128o
  L1oL52k1180384280d1I18A39gGc1gGj4az118129oLc1oL12w26M06q410I0i4fy1Bfy11212x5jy1Bjy11213x5p_11Yu1
  Ap_11213x5u_11Zu1Au_11232x5q_1Bq_112v26M06p410O0c4uy1Buy11212x5wy1Bwy11213x5cW21cu1AcW21213x5hW2
  1du1AhW21232x5dW2BdW212L2y5hu1Imf21212y5ju1Idg21212y5ku1Ivg21212y5lu1Ihh21212y5mu1Ish21212y5nu1I
  Xi21212y5ou1Iii21212y5pu1Imi21212y5qu1Ioi212n11m4mr21211m4nr212f1420Z30z1bj2Qet179h9p11032323215
  10A240201ub2126kX21qc15010323530251212127012N050101010101060m20503010B01020901010102010101020501
  060741D1cY195C570156010I5151585d1mb1W4kb212g13Nzx1w30h1qw11213N0h4in2Qzu11221NYy11222Y5tn2QYv112
  22Nwd2b5ww112l11N07471NyO1232NgGb5kz11211NoL1271Npy112n11801221NXz11212Non1b5pz112A2Y5qr2Qbw1121
  2Y5vr2Qcw179H3Tid27gY21Wd112J2Y50Qct11232Y50Qrz11211y5sz11231y5vz11211y5Zp112BC1mh1BvTEgX12vTEvT
  1gX1q1zX1o10h1hw11ZW1Fde11de11221y5wu11211y5iw112k4690E0L090d10W3jw11221y5ap11211y5kw11211y5bp11
  211y5cp112B1y5X.11221y5dp11211y5ep11211y5jt11211y5pw11211y5mt112o14f2aHo301nt1A01271y5sw11231y5f
  p112c24f2e9o301Wv1A01231y5j.18A0r10y41e22e22e22y44y41e22e22e21e21e21e21e21e21e23fJ1e22e21e22e21e
  21eR2qO1e21e23e21e21e21e22e21y42y41y43y42y41e29y49e2Ee21y45e21y41e21e21e21e211114y4TrL7.I2_Mj3.I
  9216X101rSg301_Ik301_I1251y5gp112X12n40h1yw11211y5zw11231y5yu11271y5l.11211y5qw18A8k10z41f22f22f
  22z44z41f22f22f21f21f21f21f21f21f24f22f21f22f21f24f21f23f21f21f21f22f21z42z41z43z42z41f29z49f2Ef
  21z45f21z41f21f21f21f26z4TtL9lN9216X101rSg301_Ik301_I1231y5ex11211y5t.11211y5kx11211y5u.112y1D1j
  h1BeOB03rQ2eOEeO1rQq1gUz2vx11dW1Feb11eb11012H1y5ut112C1y5_x11221y5vt11211y5wt11211y5xt11211y5yt1
  12b11y5Zs11221y5.t18BN900PgJ8fR2rOa2y4UWM7aJ2uOj3aJ9316X101sSg301bJk301bJ1231y5_t18BI900PgJ8fR2r
  Oa2z4UYM7aJ2ePj3aJ9316X101sSg301bJk301bJ12F1y5ir11211y5jr11211y5kr11211y5lr11211y5mr11211y5kz112
  11y5nr11211y5or112W34f2qBo301yp1A01211y5zp11211y5.p11211y5_p11211y5Wq11211y5Xq11211y5Yq112m11y5f
  s11211y5gs11211y5hs11211y5is11211y5js11211y5ks11211y5ls112T1y5os11211y5ps11211y5qs11211y5rs11211
  y5ss11211y5ts11211y5us112f11y5tr11211y5ur11211y5vr11211y5wr11211y5xr11211y5yr11211y5zr112k33N0b5
  xs1I01211y5ys11211y5zs11211y5.s11211y5_s11211y5Wt11211y5Xt112k11y5tt112w111nh112A1y5.x112I1y5by1
  1221y5dy112Y11y5gv11221y5iy11281y5qy11221y5ry112j11y5hr1127B1kh1BuTEeX12uTEuT1eX1q1yX1z2py11eW1F
  fc11fc112X11y5pv11291y5cs11261y5az11291y5xp112f391wh1B.TEmX12.TE.T1mX1o4.TFpj11pj11271y5nW21261y
  5es112H91xh1B_TEnX12_TE_T1nX1o4oUFqj11qj11271y5ns112A91yh1BWUEoX12WUEWU1oX1o4eSFrj11rj112D1y5sr1
  1291y5ws11271y5wW21211y5yW21211y5.W21211y5WX21211y5XX21211y5YX21211y5ZX21211y5aX21211y5bX21211y5
  dX21211y5eX21211y5fX2790q12323332WJ131L2L2sC731cj1739L5bO2dN2L1L2L3L1313131L1L1L1L1L1L231L131313
  131L132v11v11v11v11v11v11v11v11v11v11v11v11v1D11113t1W.17913NbON3k30120p10rD1j62j62j62rD4rD1j62j
  62j61j61j61j61j61j61j62gR1fJ1j62j61j62j61j64j61j63j61j61j61j62j61rD2rD1rD3rD2rD1j69rD9j6Ej61rD5j
  61rD1j61j61j61j611114rDSpL1wMo3yI121k10tD1l62l62l62tD4tD1l62l62l61l61l61l61l61l61l64l62l61l62l61
  l64l61l63l61l61l61l62l61tD2tD1tD3tD2tD1l69tD9l6El61tD5l61tD1l61l61l61l66tDTcNo3sJ121k10uD1m62m62
  m62uD4uD1m62m62m61m61m61m61m61m61m64m62m61m62m61m64m61m63m61m61m61m62m61uD2uD1uD3uD2uD1m69uD9m6E
  m61uD5m61uD1m61m61m61m66uDTdNo3WJ8Ad3n10yF1W62W62W62yF4yF1W62W62W61W61W61W61W61W61W63W61W62W61W6
  2W61W61_j12W61W61W63W61W61W61W62W61yF2yF1yF3yF2yF1W69yF9W6EW61yF5W61yF1W61W61W61W66yFT09092d3n10
  zF1X62X62X62zF4zF1X62X62X61X61X61X61X61X61X63X61X62X61X62X61X62xe21X61X61X63X61X61X61X62X61zF2zF
  1zF3zF2zF1X69zF9X6EX61zF5X61zF1X61X61X61X66zFT090124j10xD1p62p62p62xD4xD1p62p62p61p61p61p61p61p6
  1p64p62p61p62p61p64p61p63p61p61p61p62p61xD2xD1xD3xD2xD1p69xD9p6Ep61xD5p61xD1p61p61p61p66xDTrN136
  700OhR1gJk2rDT.L1pOo3YJ136700OhR1gJk2tDT.L1_Oo3uJ136700OhR1gJk2uDT.L1WPo3cJ8B6500X1Wk1c2yFb1aJl3
  aJ936500Y1ye2b2zFc1bJl3bJ136700OhR1gJk2xDT.L1kPo3uJ79n43T0701079107911NyO7910A9HZ12D2D3D2XO1D1o3
  2o3207D1v17D9o37D2o31o32o33o31D1D1D1o31o31o31o31o31o32D1o31D1D1D1D1o31DTDA9I2F08v1A91m12F2F3F2YO
  1F1q32q39F1o47F9q35uY12F2q31q32q33q31F1F1F1q31q31q31q31q31q32F1q31F1F1F1F1q31F2o41o41o41o41o41o4
  1o41o41o41o41o41o41o4FFA91m12C28382C1C1X22X29C1C7C9X25k3282X21X22X23X21C1C1C1X21X21X21X21X21X22C
  1k31C1C1C1C1k31C2C1C1C1C1C1C1C1C1C1C1C1C1CFCA910A91m12S2A3A2S1S1m32m39S1S7S9m35rA2A2m31m32m33m31
  S1S1S1m31m31m31m31m31m32S1rA1S1S1S1S1rA1S2S1S1S1S1S1S1S1S1S1S1S1S1SFSA91m12E2E3E2ZO1E1p32p39E1.4
  7E9p35vY12E2p31p32p33p31E1E1E1p31p31p31p31p31p32E1p31E1E1E1E1p31E2.41.41.41.41.41.41.41.41.41.41
  .41.41.4FEA91m12M2M3M2M1M1g52g59M1M7M9g55g52M2g51g52g53g51M1M1M1g51g51g51g51g51g52M1g51M1M1M1M1g
  51M2M1M1M1M1M1M1M1M1M1M1M1M1MFMA91m12N2N3N2N1N1h52h59N1N7N9h55h52N2h51h52h53h51N1N1N1h51h51h51h5
  1h51h52N1h51N1N1N1N1h51N2N1N1N1N1N1N1N1N1N1N1N1N1NFNA91m12O2O3O2O1O1i52i59O1O7O9i55i52O2i51i52i5
  3i51O1O1O1i51i51i51i51i51i52O1i51O1O1O1O1i51O2O1O1O1O1O1O1O1O1O1O1O1O1OFOA91m12P2P3P2P1P1j52j59P
  1P7P9j55j52P2j51j52j53j51P1P1P1j51j51j51j51j51j52P1j51P1P1P1P1j51P2P1P1P1P1P1P1P1P1P1P1P1P1PFP12
  Ml10xF1e62e62e62xF4xF1e62e62e61e61e61e61e61e61e62zj11e61e62e61e62e61e64e61e63e61e61e61e62e61xF2x
  F1xF3xF2xF1e69xF9e6Ee61xF5e61xF1e61e61e61e66xFT0A92m12Q2Q3Q2Q1Q1k52k59Q1Q7Q9k55k52Q2k51k52k53k51
  Q1Q1Q1k51k51k51k51k51k52Q1k51Q1Q1Q1Q1k51Q2Q1Q1Q1Q1Q1Q1Q1Q1Q1Q1Q1Q1QFQ132500O.j1l2xFT.Lp3uJA9934X
  9JX9SyPA9F1NXOA9F1NWJA9F1NYOA9C1NZO120n10j41w12w12w12j44j41w12w12w11w11w11w11w11w11w12w11w11w12w
  11w12w11w13w11w11w13w11w11w11w12w11j42j41j43j42j41w19j49w1Ew11j45w11j41w11w11w11w111114j4121l10k
  41x12x12x12k44k41x12x12x11x11x11x11x11x11x12x11x11x12x11x12x11x13x11x11x13x11x11x11x12x11k42k41k
  43k42k41x19k49x1Ex11k45x11k41x11x11x11x16k4121l10l41y12y12y12l44l41y12y12y11y11y11y11y11y11y12y1
  1y11y12y11y12y11y13y11y11y13y11y11y11y12y11l42l41l43l42l41y19l49y1Ey11l45y11l41y11y11y11y16l48A1
  m10rE1a52a52a52rE4rE1a52a52a51a51a51a51a51a51a5201a51a52a51a52a51a51a52a51a51a53a51a51a51a52a51r
  E2rE1rE3rE2rE1a59rE9a5Ea51rE5a51rE1a51a51a51a56rE8A1l10sE1b52b52b52sE4sE1b52b52b51b51b51b51b51b5
  1b53b51b52b51b52b51b51b52b51b51b53b51b51b51b52b51sE2sE1sE3sE2sE1b59sE9b5Eb51sE5b51sE1b51b51b51b5
  6sE8A1l10tE1c52c52c52tE4tE1c52c52c51c51c51c51c51c51c53c51c52c51c52c51c51c52c51c51c53c51c51c51c52
  c51tE2tE1tE3tE2tE1c59tE9c5Ec51tE5c51tE1c51c51c51c56tE921m10.C1x52x52x52.C4.C1x52x52x51x51x51x51x
  51x51x53x51x52x51x52x51x5101.C1x51x51x53x51x51x51x52x51.C2.C1.C3.C2.C1x59.C9x5Ex51.C5x51.C1x51x5
  1x51x56.C8A2l10uE1d52d52d52uE4uE1d52d52d51d51d51d51d51d51d53d51d52d51d52d51d51d52d51d51d53d51d51
  d51d52d51uE2uE1uE3uE2uE1d59uE9d5Ed51uE5d51uE1d51d51d51d56uE922l10_C1y52y52y52_C4_C1y52y52y51y51y
  51y51y51y51y53y51y52y51y52y51y52_C1y51y51y53y51y51y51y52y51_C2_C1_C3_C2_C1y59_C9y5Ey51_C5y51_C1y
  51y51y51y56_C8A2l10vE1e52e52e52vE4vE1e52e52e51e51e51e51e51e51e53e51e52e51e52e51e51e52e51e51e53e5
  1e51e51e52e51vE2vE1vE3vE2vE1e59vE9e5Ee51vE5e51vE1e51e51e51e56vE922l10WD1z52z52z52WD4WD1z52z52z51
  z51z51z51z51z51z53z51z52z51z52z51z52WD1z51z51z53z51z51z51z52z51WD2WD1WD3WD2WD1z59WD9z5Ez51WD5z51
  WD1z51z51z51z56WD8A2l10wE1f52f52f52wE4wE1f52f52f51f51f51f51f51f51f53f51f52f51f52f51f51f52f51f51f
  53f51f51f51f52f51wE2wE1wE3wE2wE1f59wE9f5Ef51wE5f51wE1f51f51f51f56wE922l10XD1.52.52.52XD4XD1.52.5
  2.51.51.51.51.51.51.53.51.52.51.52.51.52XD1.51.51.53.51.51.51.52.51XD2XD1XD3XD2XD1.59XD9.5E.51XD
  5.51XD1.51.51.51.56XD12Bl10m41z12z12z12m44m41z12z12z11z11z11z11z11z11z12z11z11z12z11z12z11z13z11
  z11z13z11z11z11z12z11m42m41m43m42m41z19m49z1Ez11m45z11m41z11z11z11z16m4121l10n41.12.12.12n44n41.
  12.12.11.11.11.11.11.11.12.11.11.12.11.12.11.13.11.11.13.11.11.11.12.11n42n41n43n42n41.19n49.1E.
  11n45.11n41.11.11.11.16n48BC200d3rE8BC200d3sE8BC200d3tE93C200d3.C8BC200d3uE93C200d3_C8BC200d3vE9
  3C200d3WD8BC200d3wE93C200d3XD13P200d3j416W2W11ZU6lV4pW11.MBv43nO2.ME.M1nO1v42pV7v420I0Jv43kUS010
  t1mW21iW21iW23om120201Zo1101050107pm11pm1P013Q200d3k41624NyALyA9yAd1yA8AG2O09z113S200d3l48AH2O09
  .18AW12O09w18AW12O09x19252X101m48AX12O09y19252X101n49252X101j49252X101k413Q200d3m49252X101l413R2
  00d3n48BA200d3j48BA200d3k48B52O09z18BA200d3l48B52O09.19352X101j49352X101k49352X101m49352X101l493
  52X101n4120m10lE1Z72Z72Z72lE4lE1Z72Z72Z71Z71Z71Z71Z71Z71Z73fJ1Z72Z71Z72Z71Z74Z71Z73Z71Z71Z71Z72Z
  71lE2lE1lE3lE2lE1Z79lE9Z7EZ71lE5Z71lE1Z71Z71Z71Z711114lET.M121l10wF1_52_52_52wF4wF1_52_52_51_51_
  51_51_51_51_52_51_51_52_51_52_51_54_51_53_51_51_51_52_51wF2wF1wF3wF2wF1_59wF9_5E_51wF5_51wF1_51_
  51_51_56wFT0122j10nE1b72b72b72nE4nE1b72b72b71b71b71b71b71b71b74b72b71b72b71b74b71b73b71b71b71b72
  b71nE2nE1nE3nE2nE1b79nE9b7Eb71nE5b71nE1b71b71b71b76nETiN120m10y81h32h32h32y84y81h32h32h31h31h31h
  31h31h31h34h32h31h32h31h33qO1h31h33h31h31h31h32h31y82y81y83y82y81h39y89h3Eh31y85h31y81h31h31h31h
  311114y8c1kN122j10dE1x62x62x62dE4dE1x62x62x61x61x61x61x61x61x64x62x61x62x61x64x61x63x61x61x61x62
  x61dE2dE1dE3dE2dE1x69dE9x6Ex61dE5x61dE1x61x61x61x66dETuN122j10z81i32i32i32z84z81i32i32i31i31i31i
  31i31i31i34i32i31i32i31i34i31i33i31i31i31i32i31z82z81z83z82z81i39z89i3Ei31z85i31z81i31i31i31i36z
  8c1wN122j10gE1.62.62.62gE4gE1.62.62.61.61.61.61.61.61.64.62.61.62.61.64.61.63.61.61.61.62.61gE2g
  E1gE3gE2gE1.69gE9.6E.61gE5.61gE1.61.61.61.66gET.N121j10fE1z62z62z62fE4fE1z62z62z61z61z61z61z61z6
  1z64z62z61z62z61z64z61z63z61z61z61z62z61fE2fE1fE3fE2fE1z69fE9z6Ez61fE5z61fE1z61z61z61z66fETXO127
  k10zD1v52v52v52zD4zD1v52v52v51v51v51v51v51v51v52v51v51v52v51v52v51v54v51v53v51v51v51v52v51zD2zD1
  zD3zD2zD1v59zD9v5Ev51zD5v51zD1v51v51v51v56zD122j10iE1W72W72W72iE4iE1W72W72W71W71W71W71W71W71W74W
  72W71W72W71W74W71W73W71W71W71W72W71iE2iE1iE3iE2iE1W79iE9W7EW71iE5W71iE1W71W71W71W76iETaO122k10.D
  1w52w52w52.D4.D1w52w52w51w51w51w51w51w51w52w51w51w52w51w52w51w54w51w53w51w51w51w52w51.D2.D1.D3.D
  2.D1w59.D9w5Ew51.D5w51.D1w51w51w51w56.D13B400PgJk2lEUtO13B200d3wF13B400PgJk2nEUbP13B400Z1rOa2y8d
  1dP13B400PgJk2dEUnP13B400Z1rOa2z8d1pP13B400PgJk2gEUtP13B400PgJk2fEUwP13B200d3zD13B400PgJk2iEUzP1
  3B200d3.D17k1N1wP6.P1vx13cQ1sIB03lM2sIEsI1lM102_P70d103xPo2jm22fb21uk21uk23on15zn1Fpn11pn112Ik10
  _D1c62c62c62_D4_D1c62c62c61c61c61c61c61c61c64c62c61c62c61c63c61c61c63c61c61c61c62c61_D2_D1_D3_D2
  _D1c69_D9c6Ec61_D5c61_D1c61c61c61c66_Dc10121j10WE1d62d62d62WE4WE1d62d62d61d61d61d61d61d61d64d62d
  61d62d61d63d61d61d63d61d61d61d62d61WE2WE1WE3WE2WE1d69WE9d6Ed61WE5d61WE1d61d61d61d66WE132200d3_D1
  32200d3WE17528fy1f5Xo2121K1vJ6_J103.31s9ExC2s9Es91xC3WKn1.Jo202ib21co11co13cn15xn1Cmm23dn11dn112
  12p5wb2MXn2126j10vF1d82d82d82vF4vF1d82d82d81d81d81d81d81d81d84d82d81d82d81d8301d81d83d81d81d81d8
  2d81vF2vF1vF3vF2vF1d89vF9d8Ed81vF5d81vF1d81d81d81d86vF17438iTf502zk21232p5fc2Mhn217218pg11222p5v
  c2Mrn2125i10aE1u62u62u62aE4aE1u62u62u61u61u61u61u61u61u64u62u61u62u61u64u61u63u61u61u61u62u61aE2
  aE1aE3aE2aE1u69aE9u6Eu61aE5u61aE1u61u61u61u66aE121i10XE1r62r62r62XE4XE1r62r62r61r61r61r61r61r61r
  64r62r61r62r61r64r61r63r61r61r61r62r61XE2XE1XE3XE2XE1r69XE9r6Er61XE5r61XE1r61r61r61r66XE12d77P09
  010Y308010k30121i10zE1h72h72h72zE4zE1h72h72h71h71h71h71h71h71h74h72h71h72h71h74h71h73h71h71h71h7
  2h71zE2zE1zE3zE2zE1h79zE9h7Eh71zE5h71zE1h71h71h71h76zE121i10nF1_72_72_72nF4nF1_72_72_71_71_71_71
  _71_71_74_72_71_72_71_74_71_73_71_71_71_72_71nF2nF1nF3nF2nF1_79nF9_7E_71nF5_71nF1_71_71_71_76nF1
  21i10sD1k62k62k62sD4sD1k62k62k61k61k61k61k61k61k64k62k61k62k61k64k61k63k61k61k61k62k61sD2sD1sD3s
  D2sD1k69sD9k6Ek61sD5k61sD1k61k61k61k66sD121i10YE1s62s62s62YE4YE1s62s62s61s61s61s61s61s61s64s62s6
  1s62s61s64s61s63s61s61s61s62s61YE2YE1YE3YE2YE1s69YE9s6Es61YE5s61YE1s61s61s61s66YE121i10bE1v62v62
  v62bE4bE1v62v62v61v61v61v61v61v61v64v62v61v62v61v64v61v63v61v61v61v62v61bE2bE1bE3bE2bE1v69bE9v6E
  v61bE5v61bE1v61v61v61v66bE121i10.E1i72i72i72.E4.E1i72i72i71i71i71i71i71i71i74i72i71i72i71i74i71i
  73i71i71i71i72i71.E2.E1.E3.E2.E1i79.E9i7Ei71.E5i71.E1i71i71i71i76.E121i10mE1a72a72a72mE4mE1a72a7
  2a71a71a71a71a71a71a74a72a71a72a71a74a71a73a71a71a71a72a71mE2mE1mE3mE2mE1a79mE9a7Ea71mE5a71mE1a7
  1a71a71a76mE12g12Z10h3012e77P09010Y308010k30121i10_E1j72j72j72_E4_E1j72j72j71j71j71j71j71j71j74j
  72j71j72j71j74j71j73j71j71j71j72j71_E2_E1_E3_E2_E1j79_E9j7Ej71_E5j71_E1j71j71j71j76_E121i10YF1m7
  2m72m72YF4YF1m72m72m71m71m71m71m71m71m74m72m71m72m71m74m71m73m71m71m71m72m71YF2YF1YF3YF2YF1m79YF
  9m7Em71YF5m71YF1m71m71m71m76YF121i10oF1W82W82W82oF4oF1W82W82W81W81W81W81W81W81W84W82W81W82W81W84
  W81W83W81W81W81W82W81oF2oF1oF3oF2oF1W89oF9W8EW81oF5W81oF1W81W81W81W86oF121i10pF1X82X82X82pF4pF1X
  82X82X81X81X81X81X81X81X84X82X81X82X81X84X81X83X81X81X81X82X81pF2pF1pF3pF2pF1X89pF9X8EX81pF5X81p
  F1X81X81X81X86pF121i10qF1Y82Y82Y82qF4qF1Y82Y82Y81Y81Y81Y81Y81Y81Y84Y82Y81Y82Y81Y84Y81Y83Y81Y81Y8
  1Y82Y81qF2qF1qF3qF2qF1Y89qF9Y8EY81qF5Y81qF1Y81Y81Y81Y86qF121i10vD1n62n62n62vD4vD1n62n62n61n61n61
  n61n61n61n64n62n61n62n61n64n61n63n61n61n61n62n61vD2vD1vD3vD2vD1n69vD9n6En61vD5n61vD1n61n61n61n66
  vD121i10wD1o62o62o62wD4wD1o62o62o61o61o61o61o61o61o64o62o61o62o61o64o61o63o61o61o61o62o61wD2wD1w
  D3wD2wD1o69wD9o6Eo61wD5o61wD1o61o61o61o66wD121i10cE1w62w62w62cE4cE1w62w62w61w61w61w61w61w61w64w6
  2w61w62w61w64w61w63w61w61w61w62w61cE2cE1cE3cE2cE1w69cE9w6Ew61cE5w61cE1w61w61w61w66cE121i10ZE1t62
  t62t62ZE4ZE1t62t62t61t61t61t61t61t61t64t62t61t62t61t64t61t63t61t61t61t62t61ZE2ZE1ZE3ZE2ZE1t69ZE9
  t6Et61ZE5t61ZE1t61t61t61t66ZE121i10WF1k72k72k72WF4WF1k72k72k71k71k71k71k71k71k74k72k71k72k71k74k
  71k73k71k71k71k72k71WF2WF1WF3WF2WF1k79WF9k7Ek71WF5k71WF1k71k71k71k76WF121i10ZF1n72n72n72ZF4ZF1n7
  2n72n71n71n71n71n71n71n74n72n71n72n71n74n71n73n71n71n71n72n71ZF2ZF1ZF3ZF2ZF1n79ZF9n7En71ZF5n71ZF
  1n71n71n71n76ZF121i10oE1c72c72c72oE4oE1c72c72c71c71c71c71c71c71c74c72c71c72c71c74c71c73c71c71c71
  c72c71oE2oE1oE3oE2oE1c79oE9c7Ec71oE5c71oE1c71c71c71c76oE121i10xE1f72f72f72xE4xE1f72f72f71f71f71f
  71f71f71f74f72f71f72f71f74f71f73f71f71f71f72f71xE2xE1xE3xE2xE1f79xE9f7Ef71xE5f71xE1f71f71f71f76x
  E121i10pE1d72d72d72pE4pE1d72d72d71d71d71d71d71d71d74d72d71d72d71d74d71d73d71d71d71d72d71pE2pE1pE
  3pE2pE1d79pE9d7Ed71pE5d71pE1d71d71d71d76pE12u12Z10h30121i10aF1o72o72o72aF4aF1o72o72o71o71o71o71o
  71o71o74o72o71o72o71o74o71o73o71o71o71o72o71aF2aF1aF3aF2aF1o79aF9o7Eo71aF5o71aF1o71o71o71o76aF12
  1i10bF1p72p72p72bF4bF1p72p72p71p71p71p71p71p71p74p72p71p72p71p74p71p73p71p71p71p72p71bF2bF1bF3bF
  2bF1p79bF9p7Ep71bF5p71bF1p71p71p71p76bF121i10rF1Z82Z82Z82rF4rF1Z82Z82Z81Z81Z81Z81Z81Z81Z84Z82Z81
  Z82Z81Z84Z81Z83Z81Z81Z81Z82Z81rF2rF1rF3rF2rF1Z89rF9Z8EZ81rF5Z81rF1Z81Z81Z81Z86rF121i10sF1a82a82a
  82sF4sF1a82a82a81a81a81a81a81a81a84a82a81a82a81a84a81a83a81a81a81a82a81sF2sF1sF3sF2sF1a89sF9a8Ea
  81sF5a81sF1a81a81a81a86sF121i10tF1b82b82b82tF4tF1b82b82b81b81b81b81b81b81b84b82b81b82b81b84b81b8
  3b81b81b81b82b81tF2tF1tF3tF2tF1b89tF9b8Eb81tF5b81tF1b81b81b81b86tF121i10yD1q62q62q62yD4yD1q62q62
  q61q61q61q61q61q61q64q62q61q62q61q64q61q63q61q61q61q62q61yD2yD1yD3yD2yD1q69yD9q6Eq61yD5q61yD1q61
  q61q61q66yD121i10eF1s72s72s72eF4eF1s72s72s71s71s71s71s71s71s74s72s71s72s71s74s71s73s71s71s71s72s
  71eF2eF1eF3eF2eF1s79eF9s7Es71eF5s71eF1s71s71s71s76eF121i10fF1t72t72t72fF4fF1t72t72t71t71t71t71t7
  1t71t74t72t71t72t71t74t71t73t71t71t71t72t71fF2fF1fF3fF2fF1t79fF9t7Et71fF5t71fF1t71t71t71t76fF121
  i10eE1y62y62y62eE4eE1y62y62y61y61y61y61y61y61y64y62y61y62y61y64y61y63y61y61y61y62y61eE2eE1eE3eE2
  eE1y69eE9y6Ey61eE5y61eE1y61y61y61y66eE121i10yE1g72g72g72yE4yE1g72g72g71g71g71g71g71g71g74g72g71g
  72g71g74g71g73g71g71g71g72g71yE2yE1yE3yE2yE1g79yE9g7Eg71yE5g71yE1g71g71g71g76yE121i10qE1e72e72e7
  2qE4qE1e72e72e71e71e71e71e71e71e74e72e71e72e71e74e71e73e71e71e71e72e71qE2qE1qE3qE2qE1e79qE9e7Ee7
  1qE5e71qE1e71e71e71e76qE121i10cF1q72q72q72cF4cF1q72q72q71q71q71q71q71q71q74q72q71q72q71q74q71q73
  q71q71q71q72q71cF2cF1cF3cF2cF1q79cF9q7Eq71cF5q71cF1q71q71q71q76cF121i10dF1r72r72r72dF4dF1r72r72r
  71r71r71r71r71r71r74r72r71r72r71r74r71r73r71r71r71r72r71dF2dF1dF3dF2dF1r79dF9r7Er71dF5r71dF1r71r
  71r71r76dF121i10uF1c82c82c82uF4uF1c82c82c81c81c81c81c81c81c84c82c81c82c81c84c81c83c81c81c81c82c8
  1uF2uF1uF3uF2uF1c89uF9c8Ec81uF5c81uF1c81c81c81c86uF121i10hE1_62_62_62hE4hE1_62_62_61_61_61_61_61
  _61_64_62_61_62_61_64_61_63_61_61_61_62_61hE2hE1hE3hE2hE1_69hE9_6E_61hE5_61hE1_61_61_61_66hE121i
  10gF1u72u72u72gF4gF1u72u72u71u71u71u71u71u71u74u72u71u72u71u74u71u73u71u71u71u72u71gF2gF1gF3gF2g
  F1u79gF9u7Eu71gF5u71gF1u71u71u71u76gF121i10hF1v72v72v72hF4hF1v72v72v71v71v71v71v71v71v74v72v71v7
  2v71v74v71v73v71v71v71v72v71hF2hF1hF3hF2hF1v79hF9v7Ev71hF5v71hF1v71v71v71v76hF121i10jE1X72X72X72
  jE4jE1X72X72X71X71X71X71X71X71X74X72X71X72X71X74X71X73X71X71X71X72X71jE2jE1jE3jE2jE1X79jE9X7EX71
  jE5X71jE1X71X71X71X76jE121i10iF1w72w72w72iF4iF1w72w72w71w71w71w71w71w71w74w72w71w72w71w74w71w73w
  71w71w71w72w71iF2iF1iF3iF2iF1w79iF9w7Ew71iF5w71iF1w71w71w71w76iF121i10jF1x72x72x72jF4jF1x72x72x7
  1x71x71x71x71x71x74x72x71x72x71x74x71x73x71x71x71x72x71jF2jF1jF3jF2jF1x79jF9x7Ex71jF5x71jF1x71x7
  1x71x76jF121i10kE1Y72Y72Y72kE4kE1Y72Y72Y71Y71Y71Y71Y71Y71Y74Y72Y71Y72Y71Y74Y71Y73Y71Y71Y71Y72Y71
  kE2kE1kE3kE2kE1Y79kE9Y7EY71kE5Y71kE1Y71Y71Y71Y76kE121i10kF1y72y72y72kF4kF1y72y72y71y71y71y71y71y
  71y74y72y71y72y71y74y71y73y71y71y71y72y71kF2kF1kF3kF2kF1y79kF9y7Ey71kF5y71kF1y71y71y71y76kF121i1
  0lF1z72z72z72lF4lF1z72z72z71z71z71z71z71z71z74z72z71z72z71z74z71z73z71z71z71z72z71lF2lF1lF3lF2lF
  1z79lF9z7Ez71lF5z71lF1z71z71z71z76lF121i10mF1.72.72.72mF4mF1.72.72.71.71.71.71.71.71.74.72.71.72
  .71.74.71.73.71.71.71.72.71mF2mF1mF3mF2mF1.79mF9.7E.71mF5.71mF1.71.71.71.76mF121i10XF1l72l72l72X
  F4XF1l72l72l71l71l71l71l71l71l74l72l71l72l71l74l71l73l71l71l71l72l71XF2XF1XF3XF2XF1l79XF9l7El71X
  F5l71XF1l71l71l71l76XF12r13Udj1r4go1M013w1200d3vF182J1eU6kV4qW11_MEoO2_M20C_M1oO3oV1iTm1lUq2fl21
  bl21bl23tn15Yo1Fun11un11231Uej11821l1pg113v1200d3aE13v1200d3XE13v1200d3y413v1200d3zE13v1200d3nF1
  3v1200d3sD13v1200d3YE13v1200d3bE13v1200d3.E13v1200d3mE13v1200d3y813v1200d3z413v1200d3_E13v1200d3
  YF13v1200d3oF13v1200d3pF13v1200d3qF13v1200d3vD13v1200d3wD13v1200d3cE13v1200d3ZE13v1200d3WF13v120
  0d3ZF13v1200d3oE13v1200d3xE13v1200d3pE13v1200d3z813v1200d3aF13v1200d3bF13v1200d3rF13v1200d3sF13v
  1200d3tF13v1200d3yD13v1200d3eF13v1200d3fF13v1200d3eE13v1200d3yE13v1200d3qE13v1200d3cF13v1200d3dF
  13v1200d3uF13v1200d3hE13v1200d3gF13v1200d3hF13v1200d3jE13v1200d3iF13v1200d3jF13v1200d3kE13v1200d
  3kF13v1200d3lF13v1200d3mF13v1200d3XF12k32p5ri2Mpr21212p5si2Mtr21212p5xi2Mxr21212p5yi2Myr21212p5z
  i2MYs21212p5.i2Mbs212y1F1XU6jV4sd21zMEmO2zM20CzM1mO3mVn1iUv2dj15.n1Fej11ej112z11U012t318012.11l1
  012o54N0L090d10121H1zT6nV4X31xMEkO2xMExM1kO3qVn1hUq2nn11kn11kn13ph15.m1Fqh11qh1125H1Xi16j32qT3dU
  BqT3vX12dUEdU1vX13g3n1ti1q2010103.d1Ksn11sn1171C1_h17qT4bUB03tX12bUEbU1tX1q1ri1.2zn1Fzm11zm112yA
  J16Bf9EvB2f9Ef91vBCjNI0MbJS010.10201ZU10105010X1012x8J1RBh9ExB2h9Eh91xBCjNI0MeJS010.10201lX11010
  5010X10123D1770103W4Eg82W4EW41g8CjNe1rB.2aY1FZf11Zf112l8J1u1Bq9EvC2q9Eq91vCCjNI0MwJS010.10201YV1
  0105010X1012j8J1i2BvAEiD2vAEvA1iDCjNI0MlKS010.10201kV10105010X1012i8J1m2Bg9EwB2g9Eg91wBCjNI0McJS
  010.10201vV10105010X1012h8J1KBi9EyB2i9Ei91yBCjNI0MdJS010.10201_Y110105010X1012h8J1HBr9EwC2r9Er91
  wCCjNI0MyJS010.10201od110105010X10B90h12l22sK1l22mK2l21l21jI2YL9l21l27jH9ZL5nM2xK2nD1qJ2iW13qJ1u
  G1l21l21jI1nD1nD1wS1YQ1YL2eW11uO1jH1jH1jH1jH1uO1jHR1111l2v1jW1a1_Q1_QTjW1d1sl1127B1.i1BtOEiR2tOE
  tO1iRC0e1sX1.2.m1FmJ1mJ12A2t10c4_T122A1uh1BiOExQ2iOEiO1xQq1.X1.2xn1Faf11af112191Wi1BcUEuX12cUEcU
  1uX1q1si1j3Zn11Zn11231z5XU1211z5YU1211z5ZU1211z5aU1211z5bU1211z5cU1211z5dU1211z5eU12C11_i112L2t1
  0c4jX11211z5kX11211z5lX11211z5mX11211z5nX11211z5oX11211z5pX11211z5qX112S2t10c4YY11211z5ZY11211z5
  aY11211z5bY11211z5cY11211z5dY11211z5eY11211z5fY1BCUc1202YK102YM3nM1jJ2qMFl21l21eL9gM502bK1l21sG1
  fL2_e13fL4jJ1sG1sG1kW11yS1qM2ye11nR1eL1eL1eL1eL1nR1eLT0v1la1a1vR1vRTla1d1Wm112a12t10c4WV1211z5XV
  1211z5YV1211z5ZV1211z5aV1211z5bV1211z5cV1211z5dVBD9W14ZK3ZM4kJ2rMHgL9hM7cK101tG1hL2Wf12l21hL4kJ1
  tG1tG1lW11zS1rM2ze11oR1gL1gL1gL1gL1oR1gLs2mb1a1YS1YSTmb1d1cm112i12t10c4iV1211z5jV1211z5kV1211z5l
  V1211z5mV1211z5nV1211z5oV1211z5pVBD9Z14uK3pK3l21kI2iLF0101kH9jL5nM2zK2oD1sJ2mW13sJ4kI1oD1oD1.S1Z
  Q1iL2fW11vO1kH1kH1kH1kH1vO1kHKl2Y2kc1a1hS1hSTkc1d1em112q12t10c4tV1211z5uV1211z5vV1211z5wV1211z5x
  V1211z5yV1211z5zV1211z5.V12x12t10c4zY11211z5.Y11211z5_Y11211z5WZ11211z5XZ11211z5YZ11211z5ZZ11211
  z5aZ112Y22t10c4md11211z5nd11211z5od11211z5pd11211z5qd11211z5rd11211z5sd11211z5td112c211rh112r11z
  5dX1122A1qh1BgOEtQ2gOEgO1tQq1wX1.2yn1FlY11lY1121A1.h1BaUErX12aUEaU1rX1q1qi1.2zn1Fum11um112211lh1
  12n11z5yX1121A1vh1ByMElO2yMEyM1lOq1.Q.2Xo1Faj11aj1121A1hX1BhOEwQ2hOEhO1wQq1fU.2_n1Ffd11fd112h11z
  5.U122A1sh1BwMEjO2wMEwM1jOq1yQ.2Wo1Fnh11nh112111lX112b11z5gV12291th1ByTEkX12yTEyT1kX1o4zn1Fsh11s
  h112U1z5qV12811pX112O1z5wY112291oh1BwTEiX12wTEwT1iX1o4Yo1Fyd11yd112I1z5hd112B91ph1BxTEjX12xTExT1
  jX1o4Zo1Fzd11zd1121A1zh1BYUEqX12YUEYU1qX1q1bi1.2.n1Foj11oj112D1z5Zo112B1z5zn11281z5Yo1B9W344rc11
  0d102yd1B4.9V534343A3G35L431323335313131313B0101010101010101010101010IZ2W4wTb1wTB41c12r12r11r12r
  12r11r11iA2r19r11r17r19r15iA2r12r11r12r13r11r11r11r11iA1r11r11r11r11r12r11iA1r11r11r11r11iA1r1Tr
  1Z4xTb1xTB41b12s12s11s12s12s11s11mA2s19s11s17s19s15mA2s12s11s12s13s11s11s11s11mA1s11s11s11s11s12
  s11mA1s11s11s11s11mA1s1Ts13mg2BEz1X14XK3XM1l23iJ2pMA07aL9fM7aK2qG1bL2.e1201bL4iJ1qG1qG1jW11xS1pM
  2we11lR1aL1aL1aL1aL1lR1aLs2ie1a1eR1eRTie1d1km1BFr1X14tK3lG4XB2oBCl25cL9rG7yK2x81hB2dL201hB4XB1x8
  1x81eK1rJ1oB2xe11mR1cL1cL1cL1cL1mR1cLK0Y2ef1a1mR1mRTef1d1Ym1BE1W14vK3qK1l23lI2kLC05lH9lL7.K2pD1t
  J2nW13tJ4lI1pD1pD1_S1aQ1kL2gW11wO1lH1lH1lH1lH1wO1lHs2ug1a1pS1pSTug1d1am1B9d3Z12_13_14_11_11.92_1
  9_11_17_1E.94_11_12_13_11_11_11_11.91_11_11_11_11_12_11.91_11_11_11_11.91_1T_1z2010a20B91W12W23W
  24W21W21lA2W29W21W27W2ElA4W21W22W23W21W21W21W21lA1W21W21W21W21W22W21lA1W21W21W21W21lA1W2TW2B91W1
  243444141d224941474Ed2441424341414141d21414141414241d2141414141d214T4B917BjIb1nD1qJ5qJ4jI1nD1nDB
  9h3N2l33l34l31l3Cl31l37l3E_FBl31l31l38l31_F1l31l31l31l31_F1l3Tl3z2010a20B930B932n1454B944DYLm1wS
  1YQ1YLB911z14B911.14B8GB20305LI313F033s103p8W4gUb1gUB8GB20305iAIr11r1F03r1s103p8W4hUb1hUB8GB2030
  5mAIs11s1F03s1s103pg2W4hUb1hUB635l1063p1m9W4jUb1jUB635l106r1p1m9W4kUb1kUB635l106s1p1qg2W4kUb1kUB
  638A3I010FLm13Cj9W4mUb1mUB638Ar1I010FiAm1r1Cj9W4nUb1nUB638As1I010FmAm1s1Crg2W4nUb1nUBCKX14wK3rK1
  03mI2mLHmH9nL502_K1l21qD1uJ2oW13uJ4mI1qD1qD1WT1bQ1mL2hW11xO1mH1mH1mH1mH1xO1mHs2ii1a1xS1xSTii1d1g
  m1B40d12V2V1V2V2V1V1jA2V9V1V7V9V5jA2V2V1V2V3V1V1V1V1jA1V1V1V1V1V2V1jA1V1V1V1V1jA1VR1111V3VC9gBS5
  24242A5G255421222325212121212B0101010101010101010101010C910C9T5FsC8Ln20W40b10B44b12W12W11W12W12W
  11W11kA2W19W11W17W19W15kA2W12W11W12W13W11W11W11W11kA1W11W11W11W11W12W11kA1W11W11W11W11kA1W1TW13W
  1B7C683F0U0p1Y6W4vUb1vUB7C68r1F0U0p1Y6W4wUb1wUB7C68s1F0U0p1ng2W4wUb1wUB2C6P3S0d10Cc2W4yUb1yUB2C6
  Pr1S0d10Cc2W4zUb1zUB2C6Ps1S0d10Cog2W4zUb1zUBCVE202YK102YM3.9I_11_1AgM502bK1_1s10v1la1Y2la1BCVE20
  2YK102YM3lAIW21W2AgM502bK1W2s10v1la1Y2la1BCSE202YK102YM3d2I414AgM502bK14s10v1la1Y2la1BC17BjJb1sG
  1fL5fL4jJ1sG1sGBCi3M9l31_FCl31l35l31l31l3Hl38l31l31l38l31_F1l31l31l31l31_F1l3w3010a20BC30BC32n14
  54BC44DqMm1kW11yS1qMBC11z14BC11.14CCJA203055I212F02oS12s10t1x_1CCW17FsC8LNoSw10q1y_1i20b10BDC84Z
  K3ZMW1hM7cK106_1f3mb1Y2mb1BDC84ZK3ZMW1hM7cK106W2f3mb1Y2mb1BD984ZK3ZMW1hM7cK1064f3mb1Y2mb1BD17BkJ
  b1tG1hL5hL4kJ1tG1tGBDCK4ZK3ZM4kJ2rMQhM7cK101tG1hL2Wf12l31hL4kJ1tG1tG1lW11zS1rM_2mb1Y2mb1BD30BD32
  n1454BD44DrMm1lW11zS1rMBD11z14BD11.14BDAB4uK3pK3_1I010AjL5.92zKk1_1Y2kc1Y2kc1BDAB4uK3pK3W2I010Aj
  L5lA2zKk1W2Y2kc1Y2kc1BDaCV208g53MFM1MAM9M1M2M2M1M5M1M1M1M1MB01010101010101010101010106M90BD8B4uK
  3pK34I010AjL5d22zKk14Y2kc1Y2kc1BD17BkIb1oD1sJ5sJ4kI1oD1oDBDn3M9l31l3Cl31l37l3E_F9l32l31l31l38l31
  _F1l31l31l31l31_F1l3Kl3c3010a20BD30BD32n1454BD44DiLm1.S1ZQ1iLBD11z14BD11.14BDiCV208h53NFN1NAN9N1
  N2N2N1N5N1N1N1N1NB01010101010101010101010106N90BDiCV208i53OFO1OAO9O1O2O2O1O5O1O1O1O1OB0101010101
  0101010101010106O90BDiCV208j53PFP1PAP9P1P2P2P1P5P1P1P1P1PB01010101010101010101010106P90BDhCV208k
  53QFQ1QAQ9Q1Q2Q2Q1Q5Q1Q1Q1Q1QB01010101010101010101010106Q90BEb244XKJ0L02aKB7f1583H0l2s3W4bW1b1bW
  1B7f158r1H0l2s3W4cW1b1cW1B7f158s1H0l2sg2W4cW1b1cW1BCr134YKJ0NbKBDW454ZKJ0L02cKk10B9p12F083B9r12F
  082B910B91a12i12i11i12i12i11i11ZA2i19i11i17i19i15ZA2i12i11i12i13i11i11i11i11ZA1i11i11i11i11i12i1
  1ZA1i11i11i11i11ZA1i1Ti1B91a12e12e11e12e12e11e11_92e19e11e17e19e15_92e12e11e12e13e11e11e11e11_91
  e11e11e11e11e12e11_91e11e11e11e11_91e1Te1B91a12q12q11q12q12q11q11hA2q19q11q17q19q15hA2q12q11q12q
  13q11q11q11q11hA1q11q11q11q11q12q11hA1q11q11q11q11hA1q1Tq1B91a12h12h11h12h12h11h11YA2h19h11h17h1
  9h15YA2h12h11h12h13h11h11h11h11YA1h11h11h11h11h12h11YA1h11h11h11h11YA1h1Th1B91a12f12f11f12f12f11
  f11WA2f19f11f17f19f15WA2f12f11f12f13f11f11f11f11WA1f11f11f11f11f12f11WA1f11f11f11f11WA1f1Tf1B91a
  12j12j11j12j12j11j11aA2j19j11j17j19j15aA2j12j11j12j13j11j11j11j11aA1j11j11j11j11j12j11aA1j11j11j
  11j11aA1j1Tj1B91a12g12g11g12g12g11g11XA2g19g11g17g19g15XA2g12g11g12g13g11g11g11g11XA1g11g11g11g1
  1g12g11XA1g11g11g11g11XA1g1Tg1B91a12X12X11X12X12X11X11t92X19X11X17X19X15t92X12X11X12X13X11X11X11
  X11t91X11X11X11X11X12X11t91X11X11X11X11t91X1TX1CEi1682F0LsO2210j30CE10CE.15FsCTmY1y10W40b10B94a1
  2p12p11p12p12p11p11gA2p19p11p17p19p15gA2p12p11p12p13p11p11p11p11gA1p11p11p11p11p12p11gA1p11p11p1
  1p11gA1p1Tp1B91a12m12m11m12m12m11m11dA2m19m11m17m19m15dA2m12m11m12m13m11m11m11m11dA1m11m11m11m11
  m12m11dA1m11m11m11m11dA1m1Tm1B91a12k12k11k12k12k11k11bA2k19k11k17k19k15bA2k12k11k12k13k11k11k11k
  11bA1k11k11k11k11k12k11bA1k11k11k11k11bA1k1Tk1B91a12o12o11o12o12o11o11fA2o19o11o17o19o15fA2o12o1
  1o12o13o11o11o11o11fA1o11o11o11o11o12o11fA1o11o11o11o11fA1o1To1B91a12n12n11n12n12n11n11eA2n19n11
  n17n19n15eA2n12n11n12n13n11n11n11n11eA1n11n11n11n11n12n11eA1n11n11n11n11eA1n1Tn1B91a12Y12Y11Y12Y
  12Y11Y11u92Y19Y11Y17Y19Y15u92Y12Y11Y12Y13Y11Y11Y11Y11u91Y11Y11Y11Y11Y12Y11u91Y11Y11Y11Y11u91Y1TY
  1B91a12Z12Z11Z12Z12Z11Z11v92Z19Z11Z17Z19Z15v92Z12Z11Z12Z13Z11Z11Z11Z11v91Z11Z11Z11Z11Z12Z11v91Z1
  1Z11Z11Z11v91Z1TZ1B91a12l12l11l12l12l11l11cA2l19l11l17l19l15cA2l12l11l12l13l11l11l11l11cA1l11l11
  l11l11l12l11cA1l11l11l11l11cA1l1Tl1B91a12a12a11a12a12a11a11w92a19a11a17a19a15w92a12a11a12a13a11a
  11a11a11w91a11a11a11a11a12a11w91a11a11a11a11w91a1Ta1B91a12b12b11b12b12b11b11x92b19b11b17b19b15x9
  2b12b11b12b13b11b11b11b11x91b11b11b11b11b12b11x91b11b11b11b11x91b1Tb1B91a12c12c11c12c12c11c11y92
  c19c11c17c19c15y92c12c11c12c13c11c11c11c11y91c11c11c11c11c12c11y91c11c11c11c11y91c1Tc1B91a12d12d
  11d12d12d11d11z92d19d11d17d19d15z92d12d11d12d13d11d11d11d11z91d11d11d11d11d12d11z91d11d11d11d11z
  91d1Td1CCw1a14X93A2X91m31m32A9A1yP5S1S1A9A7A1X91A1A2X93A1A1A1A1m31A1A1A1A1A2A1m31A1A1A1A1m31Aq20
  B9gDS5D4D4DADGD5o34D1D2D3D5D1D1D1D1DB0101010101010101010101010C9m245040b1yc1k3yx1C9m245040b1yc1k
  3zx1BEz194XK3XM1_1F0GfM7aK70f3ie1Y2ie1BEz194XK3XM1W2F0GfM7aK70f3ie1Y2ie1CC6a14838281X21X2282s478
  1k35C1C18987818181828381818181X21818181818281X2181818181X218CC10B9lDS5F4F4FAFGF5q34F1F2F3F5F1F1F
  1F1FB0101010101010101010101010B9lDS5E4E4EAEGE5p34E1E2E3E5E1E1E1E1EB0101010101010101010101010BE.1
  94XK3XM14F0GfM7aK70f3ie1Y2ie1BE17BiJb1qG1bL5bL4iJ1qG1qGBEX2L4XK3XM1l33iJ2pMA0GfM7aK2qG1bL2.e1201
  bL4iJ1qG1qG1jW11xS1pM_2ie1Y2ie1BE30BE32n1454BE44DpMm1jW11xS1pMBE11z14BE11.14CDW3620304nBi12d1290
  CD10B9DO2C3C4C1C507C1C50101CEk3308C1C1C8C1k31C1C1C1C1k31CTCB910CDa1480F5L092CD10CDb1480FLL093BFe
  294tK3lGI_1ErG7yK70d10Y2ef1Y2ef1BFe294tK3lGIW2ErG7yK70d10Y2ef1Y2ef1CDK2l1068CD10CDT64A5AErAO04A2
  AB9h282M3M5MI010O0d109MBFe294tK3lGI4ErG7yK70d10Y2ef1Y2ef1BF17BXBb1x81hB5hB4XB1x81x8BFh2L4tK3lG4X
  B2oBCl3ErG7yK2x81hB2dL201hB4XB1x81x81eK1rJ1oBT0Y2ef1Y2ef1BF30BF32n1454BF44DoBm1eK1rJ1oBBF11z14BF
  11.14B9h282N3N5NI010O0d109NB9h282O3O5OI010O0d109OB9h282P3P5PI010O0d109PB9h282Q3Q5QI010O0d109QCDJ
  69WJ13I010FLm13B9FO2S3S4S1S507S1S50101SErA902S1S1S8S1rA1S1S1S1S1rA1STSCEQ68212b1.c170d10W2Xz1CE3
  68313b1.c170d10W2Yz1B8_3820305jAIV1VF03Vs10B8y3820305kAIW11W1F03W1s10B622l106VCCR2l1260CC10CCS2l
  1360B652l106W1B655AVI010FjAm1VBEU84vK3qK1_1H0ElL7.Km3ug1Y2ug1BEU84vK3qK1W2H0ElL7.Km3ug1Y2ug1B645
  AW1I010FkAm1W1BEO84vK3qK14H0ElL7.Km3ug1Y2ug1BE17BlIb1pD1tJ5tJ4lI1pD1pDBERK4vK3qK1l33lI2kLC0ElL7.
  K2pD1tJ2nW13tJ4lI1pD1pD1_S1aQ1kL_2ug1Y2ug1BE30BE32n1454BE44DkLm1_S1aQ1kLBE11z14BE11.14B8X3680a10
  33v1y3W4fZ1b1fZ1CDm1192CD10CDQ193B8a3680a103r1v1y3W4gZ1b1gZ1B8a3680a103s1v1tg2W4gZ1b1gZ1CEs238nB
  1nBZ10CE10CFT380c1dNk3_z1CFT380c1dNk3W.1CEm1388F0U0CE10CEn138AF0U0CEy238WJ1WJZ10B7V38VF0U0CC8280
  d1nBCC10CF93P2L2k30CF10CFA3P3L3k30B7X138W1F0U0CC9280d1ABEb448Ma1090d10BEz348Na1090d10BEz348Oa109
  0d10BEz348Pa1090d10BEz348Qa1090d10CCE280d1WJB2e13PVS0d10BD.2820305o3ID1DF09Dm10CCx43A2I010CCx43A
  3I010B2f13PW1S0d10BDx2820305q3IF1FF09Fm10BDx2820305p3IE1EF09Em10BCn12F083CEq31i10CE10CEr31i10BCs
  12F082BC10BCY4820305ZAIi11i1F03i1s10BCY4820305_9Ie11e1F03e1s10BCY4820305hAIq11q1F03q1s10BCY48203
  05YAIh11h1F03h1s10BCY4820305WAIf11f1F03f1s10BCY4820305aAIj11j1F03j1s10BCY4820305XAIg11g1F03g1s10
  BCY4820305t9IX11X1F03X1s10BC_3820305gAIp11p1F03p1s10BC_3820305dAIm11m1F03m1s10BC_3820305bAIk11k1
  F03k1s10BC_3820305fAIo11o1F03o1s10BC_3820305eAIn11n1F03n1s10BC_3820305u9IY11Y1F03Y1s10BC_3820305
  v9IZ11Z1F03Z1s10BC_3820305cAIl11l1F03l1s10BC_3820305w9Ia11a1F03a1s10BC_3820305x9Ib11b1F03b1s10BC
  _3820305y9Ic11c1F03c1s10BC_3820305z9Id11d1F03d1s10BDQ2l1063BDX169XO1DI010Fo3m1DBDs22F083BDV69YO1
  FI010Fq3m1FBDk352030m1Cd1C90BD10BCk12F08SCEo1282H0CE10CEp1283H0BDb169ZO1EI010Fp3m1EBDW12l1062BD1
  0BDX12l106i1BDX12l106e1BDX12l106q1BDX12l106h1BDX12l106f1BDX12l106j1BDX12l106g1BCx1280d1MBDY12l10
  6X1BDY12l106p1BDY12l106m1BDY12l106k1BDY12l106o1BDY12l106n1BDY12l106Y1BDY12l106Z1BCZ2280d1NBDZ12l
  106l1BDZ12l106a1BDZ12l106b1BCc2280d1OBCc2280d1PBDb12l106c1BDb12l106d1BCe2280d1QBDa1193BDX12l106A
  BCe22l1D60BDa32F082BD10BDU5Ai1I010FZAm1i1BDU5Ae1I010F_9m1e1BDU5Aq1I010FhAm1q1BDU5Ah1I010FYAm1h1B
  Ch22l1F60BCh22l1E60BDW15Af1I010FWAm1f1BDW15Aj1I010FaAm1j1BDW15Ag1I010FXAm1g1BDV5AX1I010Ft9m1X1BD
  V5Ap1I010FgAm1p1BDV5Am1I010FdAm1m1BDV5Ak1I010FbAm1k1BDV5Ao1I010FfAm1o1BDV5An1I010FeAm1n1BDV5AY1I
  010Fu9m1Y1BDV5AZ1I010Fv9m1Z1BDU5Al1I010FcAm1l1BDU5Aa1I010Fw9m1a1BDU5Ab1I010Fx9m1b1BDS5Ac1I010Fy9
  m1c1BDS5Ad1I010Fz9m1d1BDj73AMI010BDb73ANI010BDb73AOI010BDb73API010BDb73AQI010B7d328VH0BDw452030m
  1Sd1S90BDd219DBCn494wK3rK10VnL502_K1_1l3ii1Y2ii1BCn494wK3rK10VnL502_K1W2l3ii1Y2ii1B7e328W1H0BDf2
  19FBDZ219EBCm494wK3rK10VnL502_K14l3ii1Y2ii1BC17BmIb1qD1uJ5uJ4mI1qD1qDBCW9K9l31l3Cl31l37l3Hl38l31
  l31l38l31_F1l31l31l31l31_F1l3w3010a20BC30BC32n1454BC44DmLm1WT1bQ1mLBC11z14BC11.14BCn27Ak3IC1CF03
  C60d10BC10BD12l106CBD10BCJ7ArAIS1SF03S60d10BD12l106SBFK3PDS0d10BFH3PFS0d10BFH3PES0d10BEs31F0BEu1
  48XO1XOE0O0BEn41F0BEp148YO1YOE0O0BF.23PCS0d10BF10BEs41F0BEs148ZO1ZOE0O0BE_31F0BE10BEy238i1F0U0BE
  y238e1F0U0BEy238q1F0U0BEy238h1F0U0B9W682X92X91040EX9LyP7X9o1X9BEz238f1F0U0BEz238j1F0U0BEz238g1F0
  U0BEy238X1F0U0CEg32N0LsOCE10CEh32N0LmY1BE_238p1F0U0BE_238m1F0U0BE_238k1F0U0BE_238o1F0U0BE_238n1F
  0U0BE_238Y1F0U0BE_238Z1F0U0BE.238l1F0U0BE.238a1F0U0BE.238b1F0U0BEy238c1F0U0BEy238d1F0U0BFh52F083
  BFx13PSS0d10BFk52F082BF10BFw23Pi1S0d10BFw23Pe1S0d10BFw23Pq1S0d10BFw23Ph1S0d10BFu23Pf1S0d10BFu23P
  j1S0d10BFu23Pg1S0d10BFu23PX1S0d10BFu23Pp1S0d10BFu23Pm1S0d10BFu23Pk1S0d10BFu23Po1S0d10BFu23Pn1S0d
  10BFu23PY1S0d10BFu23PZ1S0d10BFu23Pl1S0d10BFu23Pa1S0d10BFu23Pb1S0d10BFu23Pc1S0d10BFu23Pd1S0d10BCv
  1280d1XOBCy51F0BCv1280d1YOBEW228DH0BCt1280d1ZOBEX228FH0BEX228EH0BEp14206X91X9y20BFW33PMS0d10BFW3
  3PNS0d10BFW33POS0d10BFW33PPS0d10BFW33PQS0d10BEc228D1DBEb228F1FBEY228E1EBEb228CH0BE10A9ZNK2I7I105
  0701I70EIB010108010101010101010TIA910BEi1283H0BEr238CF0U0BE10CCl62k12k30CC10CCm62k13k30BEl1282H0
  BE10BEm128i1H0BEm128e1H0BEm128q1H0BEm128h1H0BEm128f1H0BEm128j1H0BEm128g1H0BEm128X1H0BEm128p1H0BE
  m128m1H0BEm128k1H0BEm128o1H0BEm128n1H0BEm128Y1H0BEm128Z1H0BEm128l1H0BEm128a1H0BEm128b1H0BEm128c1
  H0BEm128d1H0BEe128MH0BEe128NH0BEe128OH0BEe128PH0BEe128QH0B8e4380a103VBEj228SH0B8b4380a103W1A9eOI
  2v17v110C080Ev1B010108010101010101010Tv1A91G43334L2LQL732L1L2L3L4L1L1L1L1L1LA9eOI2o47o410C080Eo4
  B010108010101010101010To4BEv338SF0U0A9cOI2.47.410C080E.4B010108010101010101010T.4BFs1180BC12i103
  X9CEg83A8I010CE10CEh83AAI010CC2280d18CC10CC3280d1ACD22l1068CD10CD32l106ABCb2380a103DBCa2380a103F
  BCa2380a103EBCo12F083BCx1380a103CBC10BCs12F082BC10BCq1380a103i1BCq1380a103e1BCq1380a103q1BCq1380
  a103h1BCq1380a103f1BCq1380a103j1BCq1380a103g1BCq1380a103X1BCq1380a103p1BCq1380a103m1BCq1380a103k
  1BCq1380a103o1BCq1380a103n1BCq1380a103Y1BCq1380a103Z1BCq1380a103l1BCq1380a103a1BCq1380a103b1BCq1
  380a103c1BCq1380a103d1BCq1380a103MBCq1380a103NBCq1380a103OBCq1380a103PBCq1380a103QBCp1380a103SAF
  t2220Z30AF10AFq1220Z30AFq1220Z30AFq1220Z30AFp1220Z30AFvPH2080C080EMB010108010101010101010T0AFvPH
  2080C080ENB010108010101010101010T0AFvPH2080C080EOB010108010101010101010T0AFvPH2080C080EPB0101080
  10101010101010T0AFuPH2080C080EQB010108010101010101010T0AFXQH2080C080ECB010108010101010101010T0AF
  10AFYQH2080C080ESB010108010101010101010T0BEt11F0BCr11F0BDp11F0520X11zQ6fC4pOBnY11Xa1G_O7gC3nC1gI
  2jCf1aC1lC2gI1gI1gI11114c2x1ax11iY21cx11dY21cx11cx11cx11cx12dY21cx11cx11cx1s1.n22cx11pt15212Nml1
  k6_n2370V1bD6hC1tu13cCSoC7iC3pC1z32kCf1bC1mC2z31z31z311114s3x1m_11fY21n_11ie21n_11n_11n_11n_12ie
  21n_11n_11n_1u1n_11iv1381U1xJ6wI103uIS.I7xI1uu12_I1s82yIf1tI1zI2s81s81s86y3x1XW21gY21YW21te21YW2
  1YW21YW21YW22te21YW21YW21YW2u1YW21rv137228_u1y4hY237128sb1y4ke23832l1tb1r3ue237218av13821l1bv137
  218vb137118ev137128zv1y4xa23842l1.v1r3ya237228bw1y4za237418zb13871l1.b137218gw13821l1hw137218Wc1
  37118kw137128lw1y4.a23842l1mw1r3_a237228tw1y4Wb237418Xc13871l1Yc137218yw13821l1zw137218ac137118W
  x137128Xx1y4Xb23842l1Yx1r3Yb237228fx1y4Zb237418bc13871l1cc137218kx13821l1lx137218ec137118ox132b1
  4M010j4bx1X20321S1Zi16bV4jDSlD7cV3tV1bR2dVf1jU1iV2bR1bR1bR6j9x1oW21gd21pW21_e21pW21pW21pW21pW22_
  e21pW21pW21pW2u1pW21vv13221a5iY23241803271l10363L1aDAjDSlDBY43vu1h1Y41Y41Y4Y201Zd2101Zd21Zd21Zd2
  1Zd21ad2101r.11Zd21Zd2u1Zd23613r1Xv1s3ik22lY23611r1Yv13611r1cv13611r1dv13613r1_v1s3uf22xW23621r1
  dw13611r1ew13611r1iw13611r1jw13613r1nw1s3ig22zW23621r1vw13611r1ww13611r1.w13611r1_w13613r1Zx1s3.
  g22_W23621r1hx13611r1ix13611r1mx13611r1nx13211r10A90R2W52W51W54W51W5CW51W57jHEcO7W54uG1W51W58eW1
  1uO1jH1jH1jH1jH1uO1jHR1111W5z2_Q1_Qa2tl1A91M2X52X51X54X51X5CX51X57oPEdO7X54aO1X51X58sf21pZ11oP1o
  P1oP1oP1pZ11oPTX5323GBpOS_OB_Qk1_Q1_Q1_QZ2px12px11px11px11px1102px11px11px1u1px1321Do1WRk1WR1WR1
  WRZ2qx12qx11qx11qx11qx13qx11qx11qx1u1qx132RH1_X1n1XRk1XR1XR1XRY201r_1101r_11r_11r_11r_1201r_11r_
  11r_1u1r_1321Do1YRk1YR1YR1YRZ2s_12s_11s_11s_11s_13s_11s_11s_1u1s_132SH1WY1n1ZRk1ZR1ZR1ZRY201eW21
  01eW21eW21eW21eW2201eW21eW21eW2u1eW2321Do1aRk1aR1aR1aRZ2fW22fW21fW21fW21fW23fW21fW21fW2u1fW232X1
  H1XY1n1cRk1cR1cR1cRY201sW2101sW21sW21sW21sW2201sW21sW21sW2u1sW2321Do1dRk1dR1dR1dRZ2tW22tW21tW21t
  W21tW23tW21tW21tW2u1tW2ACAK20305cOIW51W51eLE03W5Iye11nR1eL1eL1eL1eL1nR1eLT0z2vR1vRa2Xm1ACAK20305
  dOIX51X51rPE03X5Ivf21sZ11rP1rP1rP1rP1sZ11rPT0z2vR1vRa2Xm1AFCG2030KW55cLZ1xe11mR1cL1cL1cL1cL1mR1c
  LT0z2mR1mRa2Zm1AFCG2030KX55qPZ1uf21rZ11qP1qP1qP1qP1rZ11qPT0z2mR1mRa2Zm1AE2E8W5H05lHZ1gW11wO1lH1l
  H1lH1lH1wO1lHw3pS1pSa2bm1AE2E8X5H05uPZ1yf21vZ11uP1uP1uP1uP1vZ11uPw3pS1pSa2bm11D6G40QgLH0402W5Cze
  11oR1gL1gL1gL1gL1oR1gLw3YS1YSa2dm11D6G40QsPH0402X5Cwf21tZ11sP1sP1sP1sP1tZ11sPw3YS1YSa2dm11D2HAW5
  I0101kHEcOLfW11vO1kH1kH1kH1kH1vO1kHKW5c3hS1hSa2fm11D2HAX5I0101tPEdOLxf21uZ11tP1tP1tP1tP1uZ11tPKX
  5c3hS1hSa2fm1AC6F80MmHE03W5IhW11xO1mH1mH1mH1mH1xO1mHw3xS1xSa2hm1AC6F80MvPE03X5Izf21wZ11vP1vP1vP1
  vP1wZ11vPw3xS1xSa2hm1120N1xL6sM4sM1xLExL2xLExL1xL3sM3sM3sM2sMAsMOsM5xL1sM1xL1xL1xL1xL11114sM121L
  1yL6tM4tM1yLEyL2yLEyL1yL3tM3tM3tM2tMAtMOtM5yL1tM1yL1yL1yL1yL6tM1E8F8W5F07aLN0Cwe11lR1aL1aL1aL1aL
  1lR1aLw3eR1eRa2lm11E8F8X5F07pPN0Ctf21qZ11pP1pP1pP1pP1qZ11pPw3eR1eRa2lm1BDaAJ9I10C01I70EI9I201010
  8010101010101010KIBD10BDe9J9v110C01v170Ev19v12010108010101010101010Kv1BD1G43334L23Q373231323334L
  1313131313BDc9J9o410C01o470Eo49o42010108010101010101010Ko4BDc9J9.410C01.470E.49.4201010801010101
  0101010K.4BE568XJ1XJEXJL090d10BE10BE568eQ1eQEeQL090d10490L2v47wx1Ev4Lv4Uv41v41v41v41v41v41v41v41
  v41v41v41v41v4D1111v4X5wm1491I2d47rf2Ed4Ld4Ud41d41d41d41d41d41d41d41d41d41d41d41d4Fd4BE438C1CECB
  E10BE538S1SESBF0K4rc13lG4XB2oBQrG7yd12x81hB2dL3hB4XB1x81x81eK1rJ1oBa1111w1ef1Y2ef1BF34801IE07IBF
  10BFA180BF10BFB180BE428IM0BE10BFK5N07v1E090d10BF439v1E07v1BFK5N07o4E090d10BFK5N07.4E090d10BFE180
  BF10BC7280d1IBC1049w5G40304020Q07020102030401010101010491I2b97b9Eb9Lb9Ub91b91b91b91b91b91b91b91b
  91b91b91b91b9Fb9491I2d97d9Ed9Ld9Ud91d91d91d91d91d91d91d91d91d91d91d91d9Fd949N29d4z70BEC28v1M0BEC
  28v1M0BEC28o4M0BEC28.4M0BFP180BC5280d1v1BC5280d1v1BC5280d1o4BC5280d1.4BFT24tKg1yKBF124sKg1xKBF12
  4XKg1aKBF124X_1g1eY2BF124uKg1zKBF124vKg1.KBF124wKg1_KBF124YKg1bKBF124ZKg1cK5F0J1lJ6oJ4hJCpY2GpJJ
  mJf1111m1tm2Sum22nb22ob22dj21dj21ej21ej2Ndj2Vdj21dj24F0J9Zz1EhSLcSUu81u81u81u81u81u81u81u81u81u8
  1u81u81u8D111Y5do14FO320Sv1d204Fk14207cz1y20X5io14FP320Sb9d204FP320Sd9d204FP320Sd4d2049642mT70y2
  mTX504F239mf2L0e7io15F92NyX2z3xn25F12N.Y2z3eo24FA29tx1z7vm15F22NZZ2z3_o25F12NeZ2z3np25F12NiZ2z3Y
  q25F12NnZ2z3lq25F12NsZ2z3xq25F12NwZ2z3dr25F12NZY2z3wr25F12NbY2z3zr23E0I1eS6tS1kz13jRSXTJkSf1111i
  2ln22md22nd22wk21wk21od21od2Nwk2Vwk21wk24FA290z705F34NhTz30S02zj25F11Nng13E438hTe502al23E118ng13
  F31N0AC0G4v85v81hICWL1v85aM1eMIv84v85yG1gHg1111z3ap23ev1d1rd23F3180A90E2l22l21l24l21l2Cl21l2Ll27
  l25l21l2g11111l21D0E9hN1iICXL1WO5fH1iHOYH3zG1hHg1111z3dn23mv1d1oe2A92C2t42t41t44t41t4Ct41t4Lt47t
  45t41t4i1t4A91C2Y92Y91Y94Y91mGCnG1Y9LY97Y95mD1YGi1Y9A91A2n82n81n84n81We2Cn81n8Ln87n8o1n8A91A2g62
  g61g64g61g6Cg61g6Lg67g6o1g6A91C2W32W31W34W31W3CW31W3LW37W35W31W3i1W3A911u1mDA9582Z92Z91Z94Z9EZ9L
  Z97Z9o1Z9A9182a92a91a94a9Ea9La97a9o1a91D91X7lo21D11X7bp21D11X7tp21D11X7dq21D11X7pq21D11X7_q21D11
  X7hr20G0Dq1dHb1m81cH911l85m81m81vd2.3pp11pp12at1Y1pp11at10G14h3xd2.3sp11sp1a1sp11E0D8zZ11XG1kDCw
  G6xG1WHRqC1zCg1111z3Wn23vu1d1sb21CM6405gNE0OYH40k5cn20G36q1vg2b1cX11Xk1FcX11cX11ug21E338_U1ee2u6
  Yp21E448sU1Xd1t7pc2B0A9F92cP2v8104xd1Ev8L07v8o1cPn4oX2ACP820305nMIl21l2F03l2s10ACO820305pUIt41t4
  F03t4s10AC7A4Y95Y9EY95Y91Y9IY94Y9k5030d10AC194n85n81Yj1Cn81n85n81n8In84n8AC194g65g61oUCg61g65g61
  g6Ig64g6ACO820305zOIW31W3F03W3s10AC11u1yGAC574Z95Z9EZ95Z91Z9IZ94Z9AC174a95a9Ea95a91a9Ia94a90GG4h
  3nl1.3aq11aq1a1aq10GH1h3pl11EH28ua1v6io21E148.U1Yd1t7pf2B00G34h3vl1.3eq11eq1a1eq10G41h3wl11EI19X
  G1E148ZS1WW1t7eg2B00G34h3yy1.3iq11iq1a1iq10G41h3zy11E428ba1v6qp21E148uU1Zd1t7wg2B00G34h3el1.3mq1
  1mq1a1mq10G41h3fl11E428fa1v6bq21E148wU1ad1t7ih2B00G34h3gl1.3qq11qq1a1qq10G41h3il11E428ka1v6nq21E
  148yU1bd1t7th2B00G34h3jl1.3uq11uq1a1uq10G41h3kl11E428ab1v6zq21E148YV1cd1t7Yi2B00G34h3un1.3yq11yq
  1a1yq10G41h3wn11E428gb1v6fr21E148aV1dd1t7ji2B00G34h3zp1.3Wr11Wr1a1Wr10G41h3.p11Ci11X7ko21C11X7ap
  21C11X7sp21C11X7cq21C11X7oq21C11X7.q21C11X7gr21D0C9ed11cMCdM1oTLoT9oT3nJ1dKZ1oT7111o4wx1A9m152v8
  70Z1v8v1v8n40AFf242030Kl2i20AFe242030Kt4i20AFe2820305eBCtA3Y9Vk91o9i10AFe2720305Xe2Fn8Vk91o9i10A
  Fe262030Kg6Vk91o9i10AFe242030KW3i20AF11u1k9AF564Z95Z9EZ92Z9JZ97Z9AF164a95a9Ea92a9Ja97a9AEA8206v8
  1v81oHCpHY1vG1.Gi101DC4NXHLXH9XHd1XHAEB28l2H0AEB28t4H0AE464Y94Y91Y9EY9LY97Y9AEB58n82Ze2F0VvG1.GA
  EB48g6H0VvG1.GAEB28W3H0AE11u1vGAE564Z94Z91Z9EZ9LZ97Z9AE164a94a91a9Ea9La97a919b282dT201ee14XQE0S0
  o1dTn4zz1AFC5802eBCtAY1k91o9AF0B4wV3W92W91W9CW91W9Lts17W9m1111.4Ys1AF123W9f10AF183YD4YD2YD1YDCYD
  1YDSYDl6as11DF69fDEfDLfD9fDd1fDw40AF283h81af23h82h81h8Ch81h8Sh8AC66AdDCeDM03v89.B1rC1D359jMEjMLj
  M9jMd1jM1Dj2440h10402l21Dj2440h10402t41Dj28406iICXLP0402Y93zG1hH1D179n81Zj1Cn81n85n81n8On81Dj264
  0h10402g63zG1hH1Dj2440h10402W31D11u1zG1D559Z9EZ95Z91Z9OZ91D159a9Ea95a91a9Oa91D95Al2I010Fl2m1l21D
  95At4I010Ft4m1t41DC59Y9EY9LY99Y9d1Y91D179n81Ye2Cn81n8Ln89n8d1n81D179g61g6Cg61g6Lg69g6d1g61D95AW3
  I010FW3m1W31D11u1nJ1D559Z9EZ9LZ99Z9d1Z91D159a9Ea9La99a9d1a9ACa1380a103l2ACa1380a103t4ACM54Y95Y9E
  Y9OY94Y9AC_25Aae2I010R.B1rCACa1580a103g69.B1rCACa1380a103W3AC11u1.BAC554Z95Z9EZ9OZ94Z9AC154a95a9
  Ea9Oa94a919f3340J0S01F0ASf.19c.18d.13x4p1111k1mM9mM5fw1X3fw10G0Aq1.g1b1hV1Yi1911l85hV1hV1.g1X4gt
  1Z1gt119352df17mX2y2df1m4sX21019442jf17qSy2jf1n4tX219f132bT30W3bT19122cTZ3cT19122XHZ3XH0G66q1gh1
  b1dX11Yk1FdX11dX11gh1DH0AX1eR1rS1uc1W2111e1lF1mF1tMj3lF1mF19322mTZ3mT19152fD3fD4fDy2fDn401CD6405
  nd1EbMOne140r6rc2DH45i4tF1uF1WNj3tF1uF19A32ig1Z3ig1n4cY21DY159jPE05jP1jPOjP1Eq288c91c9Dc96c91c9a
  6030S0120A9f81f8Cf81f8Sf8m11114c2W4yUb1yU1E201E101El138l2F0U01El138t4F0U01E358Y91Y9DwG6Y91Y91E16
  8n81n81Xj1Cn86n81n81El158g6F0U03qC1zC1El138W3F0U01E11u1qCAFv124h8.701E648Z91Z9JZ91Z91E148a91a9Ja
  91a91CB5802hIb1c99yG1gH7EX264yV4W9E010Lus1s6lv11C201C101D15AiIb106c93zG1hH7C454zV40a1vs13W9p6tv1
  1D201D107D354_Ve1ws1306W9j6xv11Fc15Sa_19Z_18Y_1b3gO9gODHR8X1fR1sS1_c1f3cG1dG1mOj3cG1dG1CT39od1c1
  Za1v6rf2DH25i4fG1gG1vOj3fG1gG1C239pd1c1Ya1v6gg21C139qd1c1Yb1v6yg21C139rd1c1ha1v6kh21C139sd1c1xZ1
  v6vh21C139td1c1qa1v6ai21C139ud1c1eb1v6li21C139vd1c1kb1v6ni21C139wd1c1lb1v6pi27F091aD3mv12pi1z211
  1Cdb21im2o1im2m2iX21Ft26405hY2Eux1L070b6vb21D099fd1JfH1iHOrUk1111z3en23mv1b1.b21F091.O6wv14hz1u2
  111Goj21hX21pj2j1qz11E098uW1Ege16xG1WHc2111W4xu11xu1b1xu119g142sW17sW1y2sW1n401E248vW1y6Xv11Xv1b
  1Xv119232XX17XX1y2XX11F749pSEXf1_6Xf2201EX37404ZS1WW1E0L070j6eg21CB49gPE.d1OgPv601EX158iK10DiK6i
  K1iK1E648bX1Eag26Xg21dg21F51NyZ11C439tTEbMOtT1C139hPEwX2OhP1Fo15n1hc15hc1o10W40b101F179qH1qHCqH1
  qHQic12qH3ic11E948XH1.X2j7pe2A01C7880Eke16aM1eMIuW1r5fv11fv1b1fv11C14l1vW1r5hv11hv1b1hv11CA5802h
  Ib1iK9yG1gH1C24Mbg26Yg21eg2IbX117v168f8E010n2s3W4bW1b1bW17Ei11i101CA49WY2E0OXHd6ze27E267YD1YD1YD
  1YDf1YDl6nv11D58Mle16fH1iHI06uW1l5ov11ov1b1ov17E264bf23h81h81h81h8f1h81D24r1vW1l5qv11qv1b1qv11D9
  5AiIb106iK3zG1hH1D24Mcg26Zg21fg2ObX1189580d1f8v1y3W4fZ1b1fZ17Cn11i107C844zV40d1YDp6uv17C744cf240
  d1h8p6uv11645l106f8p1j9W4mUb1mU7Do11i107D444_Vh106YDj6yv17D444df2h106h8j6yv11Dc149gd1i1zUi5mo2e1
  if21D149hd1i1WVi5cp2e1ag21D149id1i1tUi5up2e1sg21D149jd1i1vUi5eq2e1eh21D149kd1i1xUi5qq2e1ph21D149
  ld1i1XVi5Wr2e1.h21D149md1i1ZVi5ir2e1fi21Fk139mY2E_y1X7hf21FZ11Nma11F11Nva179D72W92sc130i1020m1W9
  z4gw11F239eTEeT_601FW26SZX19ZX18ZX13Yf2Y309079352YD7YD1YDx2YDz4nw11Ea138dP1dPj7019m132of170y2of1
  1Dr359fTE0L09fTd1019222jMZ3jMA9082sg12xVJrVLgu17sVm11111sg10G08q1fQb1fQ1xR911l85fQ1fQ1fQ79752h82
  Zf25h81h8x2h81E728aJ1aJ19522pf1Z3pf11FC29dh1Edh1AC084ZP5Wy1EWPOut14YPm1111x4yc21F229jTEjT0G76q1g
  Qb1gQ1yRFgQ1gQ1gQ0G16q1hQb1hQ1zRFhQ1hQ1hQ0G16q1iQb1iQ1.RFiQ1iQ1iQ1F439yY21he1Dsk1AF084ZG3ZG2ZGEZ
  GLZG7ZGm11111EA28zg11zg11E128yg11yg11E128oQ1oQ1Cx11N00G76q1jQb1jQ1_RFjQ1jQ1jQ0G16q1kQb1kQ1WSFkQ1
  kQ1kQ0G16q1lQb1lQ1XSFlQ1lQ1lQ1E088pL1aW2DpL6pL1pLc2111e5ix11F_137Zr1g10501F089Xr11wc1Cme11Xl1i21
  11X4zn2Ls.11F27702ZD1ZDCZD1ZDSbSm6jx1AFC64aG3aG2aGEaGLaG7aG1FI29kTEkT1CA29nTc1nT0G86q1mQb1mQ1YSF
  mQ1mQ1mQ1E868qL1bW2DqL6qL1qLl7nx11E168rL1cW2DrL6rL1rLl7ox11F759gK1gKCgK1gKi7rx11F649g61g6Cg61g6A
  F864bG3bG2bGEbGLbG7bG1C729xg1c1xg11E558sL1dW2DsL6sL1sL1E158tC1jg2DtC6tC1tC1FD49hK1hKChK1hK1F159p
  B1pBCpB1pBSpB1F12p1ef2m6rx11EO28eT1eTA9k64A0C0Y10101D089.a2Ev4Lv49v4d1v47111Y5Zz11C929dPc1dP1D27
  9fW2EgGLgG9gGd1gGw4Wy1G0A9462X92X9JX9LX97X9o1X9A9162iG2iGJiGLiG7iGo1iGA9162hG2hGJhGLhG7hGo1hG1E8
  28fT1fT1E128jM1jM1D659me2EfDLfD9fDd1fD1C829aJc1aJA9562kG2kGJkGLkG7kGo1kGA9q132uMg1uMv1uMA9162jG2
  jGJjGLjG7jGo1jG1Du129jPi1jPAEN74.V301iP1iPEuVLXa27vV1E828jT1jTA9j142ZG5020y2ZG1Cc14801gW2c1pLz6k
  y11E.25n1kc15kc1o10W40b10A9a142aG5020y2aG1E528kT1kT1CY14801hW2c1qLz6ny11CY14801jW2c1rLz6oy11Ef35
  8qHE010Qlc15lc1A9X142bG5020y2bG1CW14801kW2c1sLz6oy11CW14801kg2c1tCz6oy11DE29dPi1dP1CJ29jMc1jM1E9
  28fD1fD7Eb324h8.701D429aJi1aJ1DF49mW2c106pLt6xy11CF480d1f82mc15mc11DD49nW2c106qLt6zy11DD49oW2c10
  6rLt6.y11CD480d1qH2nc15nc11DC49pW2c106sLt6.y11DC49lg2c106tCt6.y1AEe14206v81v8y20AEb14206X91X9y20
  AEb14206iG1iGy20AEb14206hG1hGy201Dh159qf2Ed4Ld49d4d1d41CG29fDc1fD7CF280d1h8AEa14206kG1kGy20AEX13
  8uM1uMZ1uMAEa14206jG1jGy20AEk22701ZG1DH4l102oc14f81oc1AEa22701aG1DG4l102pc14qH1pc1AE.12701bG1Fc2
  29fDEfD7DA2l106h8ACx239by1c1Yu1m6tf2AC139hy1c1hv1m6hg2AC139vy1c1hu1m6zg21Fv229ba2Eno119072aP7qb1
  1tc1v21111aPl4pX21F7290Ekd21F11Nld2AFO1801F077jSGod2NdNr1111u1zb22bn219c3220Z3tv11D07NyNLuv19qt1
  d1xx17111f4gn219071.O1bPX31111bPGcc2k1zX21Fa547vv140f3mj22019072gG3gG4_W2w21111gGn4Y.1AFU180AFU1
  80AFU1801FB2N02uY219542fD3fD4le2y2fDED07q1dY11fj1c1fi18l81l8c4sc2c1i.179p324h8.7019A22rW1Z3rW1AF
  W1180AFW144oK40FiSSnKA9b232kg1g10v1kg1AFX11801FK1N_Z2AF429iPZ1xY2ED93r1gj1c1gi1r5k.11F32Aie1Dzk1
  ED23q1bk11Zk1c1ak11F51NWl1ACU39YX1c1YX1m601Fy269vH1vHCvH1vHSvHm601F159nH1nHCnH1nHSnH1F159rH1rHCr
  H1rHSrH1F159zH1zHCzH1zHSzH1Dn36702cs110C0Vzu1l6fd21Fn359Yr110DXa1k6.n2LkY21F81Nhl11Fg31901Ed368Y
  J1YJDYJ6YJ1YJl701Ee329tCZ801F759wH1wHCwH1wHSwH1F159sH1sHCsH1sHSsH1F159_H1_HC_H1_HS_H1F159.H1.HC.
  H1.HS.H1F159dI1dICdI1dISdI1F159ZI1ZICZI1ZISZI1E758ZJ1ZJDZJ6ZJ1ZJ1F259xH1xHCxH1xHSxH1F159tH1tHCtH
  1tHStH1F159eI1eICeI1eISeI1F159WI1WICWI1WISWI1F159ZB1ZBCZB1ZBSZB1F101F159aI1aICaI1aISaI1F159yH1yH
  CyH1yHSyH1F159uH1uHCuH1uHSuH1F159XI1XICXI1XISXI1F159YI1YICYI1YISYI1F159bI1bICbI1bISbI1F159cI1cIC
  cI1cIScIAEf31i101Ec337hr1g10501Eh458ZDE010SeVm6o_11E148gK1gK1gKv7t_11CQ280d1YJ1CQ280d1tC1E438hK1
  hK1hK1E148pB1pB1pBf1pB1E12p1ff2m6t_11CN280d1ZJACY22i103v8ACy12i103X9ACy12i103iGACy12i103hGACt12i
  103kGACk129uMc1uMACs12i103jGACt2380a103ZG1CH37pr110d1f81CH480d1ZD4fVm6aW2ACu2380a103aG1C249gK1gK
  b1gKq6gW2ACu2380a103bG1DJ2l106YJ1DJ2l106tC1C639hK1hKb1hK1CJ380d1pBq6aW21C12p1gf2m6gW21DJ2l106ZJ1
  Do269v1Ev1Lv19v1d1v1n401D159XHEXHLXH9XHd1XH1D159b9Eb9Lb99b9d1b91D159d9Ed9Ld99d9d1d91Dj329d4z701F
  w11NiK1DH37xr1e106f81DH4l104gV2ZDk6rW21DY22M0VnH1D249gK1gKh1gKk6uW21D339hK1hKh1hK1DE3l106pBk6rW2
  1D12p1hf2m6uW21D_24i1qx19iy1d1Wz1n4oo21Fv21PYZ21Dc239hs1i1Zw1l6yf21F21PdZ21D239ls1i1rw1l6mg21F21
  PhZ21D239qs1i1dx1l6Yh21F21PmZ21F11PrZ21F11PvZ21F11P.Z21FJ1Nsl11F11Nyl11Fk33Ndm1b4qi22or21Fw21Nto
  11F31N.o11F11Nap11Fk3270j3Zj219t31A07F061tY12tY11rv1_2111l4qX219252ef17lX2y2ef1l401rX21F857xNG0y
  3hj29ij22019252dg17lSy2dg1m409vX219132fg1Z3fg1v4wX2AFc3290Z1bz119m342aT304oX2y2aT19842bP7pu1y2bP
  l4.X27F831oZ12oZ11he219842ZT7qX2y2ZTm4XY219132ff17rX2y2ff119532kf17qSy2kf11FA2p4tj29uj219932eg1Z
  3eg1v4ZY219122gg1Z3gg11F06SgT9gT8gT3gTp11111DZ14i109rt1d1Xy1n4nn219f442vM7vMy2vMl4019B32WX17ie2y
  2WX11FL41zPp3pn21jd2k1mY21F11q3qn219B32ch17ke2y2ch11I06RaSe21113.b2X1.j2n3bY219932nQ7_e2y2nQAFv3
  1i101I32d3Zc2o4eY219F22jg1Z3jg11FX72p10m601I32Rte2i2se21E068wu11ar11eNv2111s4cd21C15801br11WQb1x
  u1h6dd21E238Zv11fr1n7id21F549kM1wc1CkM1kM1F149fK1fKCfK1fK1F239ue210m7kY21Dm139sTi1sTl601E558aP1y
  b11xc1g7qd2601E068pI1pIEvz1Lje1t11111EI48bPi301.k2k1zd21E118rW11EZ438vHE0101EX238nHF0U01EZ438rHE
  0101EZ438zHE0101Ez338wHE0101Ez338sHE0101Ez338_HE0101Ez338.HE0101Ez338dIE0101Ez338ZIE0101Ey338xHE
  0101Ey338tHE0101Ey338eIE0101Ey338WIE0101Ex338ZBE0101E101Ey338aIE0101Ey338yHE0101Ey338uHE0101Ey33
  8XIE0101Ey338YIE0101Ey338bIE0101Ey338cIE0101CN280d1vH1CN280d1nH1CN280d1rH1CN280d1zH1CN280d1wH1CN
  280d1sH1CN280d1_H1CN280d1.H1CN280d1dI1CN280d1ZI1CN280d1xH1CN280d1tH1CN280d1eI1CN280d1WI1CM280d1Z
  B1C101CN280d1aI1CN280d1yH1CN280d1uH1CN280d1XI1CN280d1YI1CN280d1bI1CN280d1cI1DN2l106vH1DM2l106rH1
  DM2l106zH1DM2l106wH1DM2l106sH1DM2l106_H1DM2l106.H1DM2l106dI1DM2l106ZI1DM2l106xH1DM2l106tH1DM2l10
  6eI1DM2l106WI1DL2l106ZB1D101DM2l106aI1DM2l106yH1DM2l106uH1DM2l106XI1DM2l106YI1DM2l106bI1DM2l106c
  I1Dy23r1ly1d1Yz1n4po21Iq22d3sc2o4wa21Ir21d3.c21Em238Ww11ir1n7vf21Co239jr1c1Xw1h6wf21E238fw11nr1n
  7zf21E138ow11qr1n7jg21C339rr1c1pw1h6kg21E238xw11ur1n7ng21E138ax11yr1n7_g21C339zr1c1bx1h6Wh21E238
  jx11Ws1n7Zh21Fi32p4.l29Ym21F12p4_l29Zm219052gp1X31111na2j4pb21F051aD2Wj1W3111_1.m21E058YH1XGw211
  1d5sb21E148og11vb2z7tb2501E218zZ119542dT3ee1W3dTj401F34801oMLae1e7df21F059nX2Ebe2i2111v4yb219342
  hg130PrY2d2hg11DuC4S010a60301F_2380FpILfe11F149ft1Emg1L0v6Wc21F2019D32pp1Z3oe1j4Xc21EA18iz11E118
  jz11E138kP1YW2Y8ec21EE38iT1wb2z7xd21J05Z31111uS1dSX1sM1F749iY2E.x1L0i6ic21FE1Ube11E448i.11sX2q7k
  c2901FF39tX2EZg1c7lc21Ft44Nrd2N0k302mn21DF39rW2i1.Z1q6nc21FD39o4Eo4Lo41FF39gt1EhTk7oc219E22ge2Z3
  _W11E748sU1Xd1q703pc21E138vk11b_1t7qc21C059nd1c1ne1q1111a5rc21Dj13r1st1d10n4on219f41A019132dQ7dQ
  y2dQ1EI28aJ1gg21FF1Uzd11JI1d4xM1J101FJ29re2Eqe2DH05X1z11m41m4W21111EJ38vc11vX2q7Xe21FJ29ze2EmP19
  j429nQr701DJ29Wg2i1aX11FI29kf2EnP1EG38_Z11c_1t7.c21E128Wa11d_11CH39WX2c1ja2v6_c2ED05q1qU1qUc1qU8
  l81l81DI2r1vt1u5vn21Fp8220Z301FG1U_d11JF1d4fNDHE3X1.11n41n41C749ay1c1nb1m6Xd290AFv4290Ecc21EA28o
  Q1Xf21CA29_f2c1.f2AF31Ngc21C529Wf2c1YX1AF21Njc21F1440Jas1SbSm6jx11DJ49bs1i1yu1l6ed250AF31Nnc21E8
  48sb11cr1n7me2601C14801er1c1tb1h6we21D439ds1i1ub1l6hd21D119es11D149lg11p.1h1lg1l601D229jf2i1if21
  E628vb11gr11Ez41A01C749gNc1YHh60Hrd21C149mc2c1og1t6td2501E348mg11ht1h70Hvd21EW51N01E12N.z1L0DHO3
  X1w11j41j41E738bP1yv1h7.d21C739eW2c1kPy6_d21E538b91b9Z1b91C839pc2c1iTt6qe21Ev128o4F01E938hT1it1y
  7Ye2DH73X1x11k41k41Ea228d41of2EDc13q1xR1xRc1xR1Ej538vM1vMh701EA28WX11je21CA29hg2c1aJ1Jc13b3vS1fS
  X1qO1Ep128mP1.e21E928nP1lf2DH93X1y11l41l4ED83q1yR1yRc1yRED13q1zR1zRc1zRED13q1.R1.Rc1.R1Fq51801J8
  1d4YPED33q1_R1_Rc1_RED13q1WS1WSc1WSED13q1XS1XSc1XS1Ex82p10m60ED23q1YS1YSc1YS1E238kM1kM1eN1E138fK
  1fK1fK1Ea128kM1ve21DI49hNc106YHs6oe21D139lW2i1kPs6se21E348gG1_X2j7re2401CT29pf2c1d41E228fD1oe21D
  429ig2i1aJ1CB280d1ZD1C139kM1WQb1kM1CA280d1fK1Cp129we2c1kM19j332VSVd2V19132W1SW1d2W11C349YY2c1gGd
  6.e2401C129pe2c1fD1D82l106ZD1D72l106fK1F349kY2EgGO0d6Yf21F129ne2EfD19Y332wp1Z3dy1j4cf21El318ua11
  Dq239gd1i1zUq6if219b322Yq1Z3gc11Fk239oc2Lv4e7jf21E418yz11E118zz11JY11d4lO1F_229lY2Ejy11Dx229sW2i
  1wa11F629nf2Ld41Em238.U1Yd1t7pf21E138ho11f_1t7qf21Cn239od1c1Za1v6rf21Dw22r1my1u5qo21Jo101Er228xa
  11g_11E128ya11h_11Cs229YX2c1tl11D52r1qy1u5ro21Cs229cy1c1ob11Dj239gs1i1Yw1l6xf21Ef128zb11kr11CW12
  9lr1c1.b11Dm229is1i1_b11D119js11E428Wc11or119O32Zq1Z3ya2j4Xg21EM18_U1DK39hd1i1WVq6ag219R22cq1Z3p
  e11E318X.11E118Y.11DO29uW2i1.a11EH38ZS1WW1t7eg21E138wo11j_1t7fg21CI39pd1c1Ya1v6gg21EK28_a11k_11E
  128Wb11l_11CL29ZX2c1cl11CK29ny1c1wb11DG39ks1i1qw1l6lg21EG28Xc11sr11CK29tr1c1Yc11DJ29ms1i1Zc11D11
  9ns11E428ac11wr119H32jq1Z3Xb2j4rg21EG18ba11DG39id1i1tUq6sg219K22rq1Z3qe11DI29vW2i1ca11EE38uU1Zd1
  t7wg21E138em11m_1t7xg21CF39qd1c1Yb1v6yg21EH28da11n_11E128ea11q_11CI29aX2c1bp11CI29xy1c1pb11DE39p
  s1i1cx1l6Xh21EE28bc11.r11CI29_r1c1cc11DH29rs1i1dc11D119ss11E428ec11Xs119F32wq1Z3ab2j4dh21EI18fa1
  1DG39jd1i1vUq6eh219I22Wr1Z3se11DI29wW2i1ga11EE38wU1ad1t7ih21E138ym11r_1t7jh21CF39rd1c1ha1v6kh21E
  H28ia11s_11E128ja11t_11CI29bX2c1Wn119832dr1Z3Z.1j4oh21EB18ka11D939kd1i1xUq6ph219B22mr1Z3jc11DB29
  xW2i1na11E738yU1bd1t7th21E138ln11u_1t7uh21C839sd1c1xZ1v6vh21EA28oa11v_11E128pa11w_11CB29dX2c1ik1
  19832vr1Z3db2j4zh21EB18ab11D939ld1i1XVq6.h219B22Zs1Z3te11DB29yW2i1bb11E738YV1cd1t7Yi21E138qp11x_
  1t7Zi21C839td1c1qa1v6ai21EA28cb11y_11E128db11._11CB29eX2c1sn119832fs1Z3gb2j4ei21EB18gb11D939md1i
  1ZVq6fi219B22os1Z3ue11DB29.W2i1hb11E738aV1dd1t7ji21E138mq11__1t7ki21C839ud1c1eb1v6li21EA28ib11WW
  21E128jb11XW21CB29fX2c1xp11C139vd1c1kb1v6ni21C229gX2c1tq11C139wd1c1lb1v6pi21C229hX2c1.q11Ft62Nvm
  1d4sr21Fy51UWe11F11UXe1AFo51Ntc2AF11Nzc2AF11NXd2AF11Nbd21F51UYe11F11UZe11F11Uce11F11Ude119N32qf1
  Z3qf1j4019122rf1Z3rf119122sf1Z3sf119122cPZ3cP19122Yf1Z3Yf119122bTZ3bT19122cTZ3cT1Fx339pTEpTX701F
  r71i101F1019422XHZ3XH1F239za2E0l7ux1DF3390Eqd2Fdz11Fd83k10b3xj29019422_W1Z3_W119122tg1Z3tg119122
  vg1Z3vg119122Zf1Z3Zf119122cf1Z3cf119122YTZ3YT19101EA38eP1ePz701E128fP1fP1E128aJ1aJDFC2Nud2Fez11F
  C1p4_j21FH29mPEmPDF32Nbg1Fbg1DF12Ndk1Ffz11Dh729aX1W801F429nPEnP1I04Reh1e21113eh1DF42Nmk1Fgz1DF12
  Ncg1Fcg119E22ug1Z3ug11EC28oQ1oQ1E128fh11fh11C13801tTc1tT19422af1Z3af119122bf1Z3bf11F041YY1n1YY1n
  11111F04z2ai11pt151111F12z2hi11.u11F12z2ii11Wv11ID2Rtf1i2tf11DG29sTi1sT1I22Ruf1i2uf11I12Rvf1i2vf
  11I12Rwf1i2wf11I12Rxf1i2xf11I12Ryf1i2yf11I12Rzf1i2zf11I12R.f1i2.f11I12R_f1i2_f11I12RWg1i2Wg11I12
  RXg1i2Xg11I12RYg1i2Yg11EL28v11v11E128pT1pT1Ee71N01E128XH1XH1E128d91d91E128d41d41EX71A01E128dQ1dQ
  1CS29ePc1eP1C129fPc1fP1C129aJc1aJ1E428mP1mP1E128nP1nP1C329v1c1v11C129XHc1XH1C129b9c1b91C129d9c1d
  91C129d4c1d41DA2l106eP1D129fPi1fP1D129aJi1aJ1IM2Rj4i2j41I12Rk4i2k41I12Rm4i2m41I12Rl4i2l41I12Rn4i
  2n41Fh121aY1n1aY11Ff12z2ci11Zu11F12z2ji11aw11F12z2ki11cw11F421bY1n1bY11F22z2di11cu11F12z2li11sw1
  1F12z2mi11uw11F421ZY1n1ZY11F22z2ei11iu11F12z2ni11ex11F12z2oi11gx1DF.12Nnm1Fr.1DF12Nbn1Fu.1DF12Ny
  n1Fx.1DF12Nio1Fz.11Fg21p4Wm21F11p4Xm21F32Njd2F01F121nv1M01F111ov11F111pv11F111lu11F120wg2102F120
  0FqY21F123mu1C01F113ot11E12305dt11E118lk11F711sv11F1210Tae11FD1Nnd21F311nu11C1210k1et11C11l1nk11
  D12l106rU1D11r1ok11F61NtY21F11Nfe21F711ha21FA1Uxs11F12U07qc11F311ou11F111yx11FI13_d21F1230Qxb21E
  I18qk11F71Ube11FA1Npd21F611_x11F111qu11F31Ntd21CI1l1rk11DH1r1tk11D11r1uk11E918sU1D21r1tt11FA1Uzd
  11F71NXf11F11Nyd21F11Nag11E618lz11F21Nek11D71r1wt11D11r1yt11E418nz11E118oz11FA1U_d11F61Ngk11F11N
  yZ11F11Nce21D71r1zt11F21Nde21F11NzX21FO11xv11F21Nbl11F11Nll11F11Nol12Fs11F_Y21ED18ey11E118Yo11F7
  11Wu11CU1l1wz11C11l1Zo11DD1r1zU1D11r1ao11F91NWZ21F611ql11F111lt11F111xz11EA18do11F211Xu11C91l1eo
  11D81r1fo11D11r1go11E518.U1D21r1oy11D11r1ry11D11r1sy11D11r1ty11F911uy12FN1FaZ21E718_z11E118oo11F
  411fv11CD1l1W.11C11l1po11D81r1WV1D11r1qo11FN1NbZ21F611Yl11F111bu11E918ro11F211gv11C81l1so11D71r1
  uo11D11r1vo11E518ZS1F511wy12FI1FfZ21E318jv11E118.l11F411du11C91l1kv11C11l1Wm11D91r1tU1D11r1Xm11F
  I1NgZ21F611Yp11F111eu11E918Zm11F211fu11C81l1am11D71r1bm11D11r1cm11E518uU1F511.y12FI1FjZ21E318Wt1
  1E118om11C81l1Xt11C11l1pm11D81r1vU1D11r1qm11FH1NlZ21F911rm11F111ku11E818tm11C71l1um11D61r1wm11D1
  1r1xm11E418wU2FF1FoZ21E218cn11C61l1en11D51r1xU1D11r1fn11FD1NqZ21FC11fk11E618hn11C61l1in11D51r1jn
  11D11r1kn11E418yU2FC1FtZ21E218hp11C61l1ip11D51r1XV1D11r1jp11FC1NuZ21FC11qn11E618lp11C61l1mp11D51
  r1np11D11r1op11E418YV2FC1FyZ21E218dq11C61l1eq11D51r1ZV1D11r1fq11FC1NzZ21FC11up11E618hq11C61l1iq1
  1D51r1kq11D11r1lq11E418aV1F611qq11F111yq11F91N_l11F11Njm11F11N_m11F.31UWe11F21Nma11F11Nvn11F11Nz
  n11F41UXe11F21NWo11F11Nva11F11NaY21F41UYe11F11UZe11F31NcY21F11Nep11FG11lv11F111rx11F111sx11F61Uc
  e11Fe51b1Wd11Fb51Tgd21F31Ude11F21Thd2u2594J0h_70r20_qt101X101Z101b101c101e101f101g101h101i101j10
  1k101l101m101n181w101x101y101z101.101W20rLX2P50232Km10B0506M2U2fE5BF48020Y442142207022202J2o22g4
  9b52b1307e1e2Q53k1g1a112Y320G181B230H02TUu2C0PW1A1506L50A040OO8A6N26Hf1x1r140J089GF57313L2620434
  0H0E122F1B095513L26212121W1320K2H8222L26212440J0G1O0C7313L26212440V122G0I025422341202141424BN0r1
  7222M2F40R22131V057222M292440V221G1I8222e130H06292P56H4N282036x1l120E6x1120242N202920B03420M3X10
  W272Z1S4q3g1L0H5534041825CD0Ib120603g12iA233620233e1233W1233620233E2u1233Y2c1FHr2354hJ3G2P6g24A8
  HEIFHFC22Gp1a1050a2u28e1206b2BUo1T34Ch15Pt1MAq1p20.2k1I7t1TE1Bh1RZ1g12BZ13A6g132g132521406_5X2r8
  353b135372020202U3q12620422643355C6226r30E0HCc30503920357020202F336450Ie1up2a77341Db120603t180HM
  A626262626262626dH2Q884345r2722v2236g12z2IVn1FXG_j6X2iqLa2j13i84FB1Lk1HU3l2e183c33n2LG22232MUp1F
  n1_154021CRBMQS8k1T0H429B42e1O227LM404n12041343020P23A82D53535A6262g12D7o3UZzADM5m1be8jB3f3d16D4
  60292C242021212h3Y1g47v6J_13r1f19u3020402020202z3b1P7PCt13U45353532a1B2P2I212E3DZ1w3c2q1i8S4m1m1
  VET6b1BT3Z15724h1z4JZ15Z15d19p1DA2E26212A2E26214p1Ds9ALB7P52f128c25302h121403MBMAUY2I21BLBP7Pd1t
  171X20G3222Sh1S4Sa172RSr1BLBIEHl3e2u1o1Eo1EZ1d1RAMx7f171H5v1SB09Lh1Hl1KSMDq1w1130Ei1X1ORZ1U0309Y
  140Dl1F3M020a1H2OK1W2620232E298k1d17313L26212440J0D4V920302b120Q020j1q1J3L2Vl1L120v5k1g13b1l1L0y
  1g1E0e2Qc16w5h1r3_1W173037212NG020_273c1H020T0Bd180M0Cj1K0Je2e6W1W182a1I0o1Tn36212b1M0Q5212VF0Oh
  1b8IG02C2X1z30m2vSd3k3IZ6jo2W3GlX1I5Qwy36cIwr6TZt1uH8UIk2ITJl1H3W1K6InDi1q6_1X1O3Oj1g260Z2CX2120
  F4Arc7g1VY3o3.l8326212Y9G0U230F39hCbe2g36C4889dx5q22c2213031332B20262W22337262R232420462pA3O2O2U
  2O2U2O2U2O2U2O27rv1U75c8z1p4i1B6H0YATJh1bFRb7T30m6U22212634A1X7623212E2a6y1Z280rb132Q21203029232
  02070502020222120302020202021203326232320292G62242Gbg4_sf1X1ze43jq53mf7GjJZj2zGZl1gw46ff81x201y2
  01z201.201b301x301y301z301.30qLX2P502Pm10B0506M2U2fE5BF48020Y442142207022202J2o22g49b52b1307e1e2
  Q53k1g1a112Y320G181B230H02TUu2C0PW1A1506L50A040OO8A6N26Hf1x1r140J089GF57313L26204340H0E122F1B095
  513L26212121W1320K2H8222L26212440J0G1O0C7313L26212440V122G0I025422341202141424BN0r17222M2F40R221
  31V057222M292440V221G1I8222e130H06292P56H4N282036x1l120E6x1120242N202920B03420M3X10W272Z1S4q3g1L
  0H5534041825CD0Ib120603g12iA233620233e1233W1233620233E2u1233Y2c1FHr2354hJ3G2P6g24A8HEIFHFC22Gp1a
  1050a2u28e1206b2BUo1T34Ch15Pt1MAq1p20.2k1I7t1TE1Bh1RZ1g12BZ13A6g132g132521406_5X2r8353b135372020
  202U3q12620422643355C6226r30E0HCc30503920357020202F336450Ie1up2a77341Db120603t180HMA626262626262
  626dH2Q884345r2722v2236g12z2IVn1FXG_j6X2iqLa2j13i84FB1Lk1HU3l2e183c33n2LG22232MUp1Fn1_154021CRBM
  QS8k1T0H429B42e1O227LM404n12041343020P23A82D53535A6262g12D7o3UZzADM5m1be8jB3f3d16D460292C2420212
  12h3Y1g47v6J_13r1f19u3020402020202z3b1P7PCt13U45353532a1B2P2I212E3DZ1w3c2q1i8S4m1m1VET6b1BT3Z157
  24h1z4JZ15Z15d19p1DA2E26212A2E26214p1Ds9ALB7P52f128c25302h121403MBMAUY2I21BLBP7Pd1t171X20G3222Sh
  1S4Sa172RSr1BLBIEHl3e2u1o1Eo1EZ1d1RAMx7f171H5v1SB09Lh1Hl1KSMDq1w1130Ei1X1ORZ1U0309Y140Dl1F3M020a
  1H2OK1W2620232E298k1d17313L26212440J0D4V920302b120Q020j1q1J3L2Vl1L120v5k1g13b1l1L0y1g1E0e2Qc16w5
  h1r3_1W173037212NG020_273c1H020T0Bd180M0Cj1K0Je2e6W1W182a1I0o1Tn36212b1M0Q5212VF0Oh1b8IG02C2X1z3
  0m2vSd3k3IZ6jo2W3GlX1I5Qwy36cIwr6TZt1uH8UIk2ITJl1H3W1K6InDi1q6_1X1O3Oj1g260Z2CX2120F4Arc7g1VY3o3
  .l8326212Y9G0U230F39hCbe2g36C4889dx5q22c2213031332B20262W22337262R232420462pA3O2O2U2O2U2O2U2O2U2
  O27rv1U75c8z1p4i1B6H0YATJh1bFRb7T30m6U22212634A1X7623212E2a6y1Z280rb132Q212030292320207050202022
  2120302020202021203326232320292G62242Gbg4_sf1X1ze43jq53mf7GjJZj2zGZl1gw46ff89086H2w12T202iy72p22
  zqt12_dWW169022J0h_70r20_qt101A01X3P2092q__X11m192Y20W102b20W104g2020U0202l20W102u20W101_20cPm19
  8P502Pm10B020306M2U2fE5BF48020Iq321422074202J2o22g4243b52b1307e19i1202121209Q53UA6f25b327392I30H
  w13a3Fr150303j1JR5A6N268g22W4392I27313L2620433831339051243BB0203225513L26212121302451324083208FC
  228222L26212439222230G339A62227313L2621243831328251243920H125422341202141424B5442233070F9HC222M2
  F3822238122213339H327222M29243822238162233922DC222o12224638439B5222H4N282036405520277931Ev16E29e
  1120242N202M3420262933X10O179C02020592Z15J2H2Z1A0w1f27j23b120603g12iA233620233e1233W1233620233E2
  u1233Y232A8FFHr2354hJ3G2P6g24A8LALCJDC2221Dp2405139Y122A7u28g16b2BU2B5BBd134Ch15P7Ac1R5.12S3A79E
  09D2U3BLi249I8Dp3Dt1994m13A6g132H22c16rG353b135372020202U3q12620422643355C6226G1o11K0T0E0HCq1C50
  4BI0503920357020202F336450Ie1up2a778Db120603t180GNA6262626262626262VcG2QE24345r231322.26g12z2IVn
  1FXG_j6X2iqLa2j13i84RLl1592o3c183c33n2Ls150Kp1Db2B97N402m13Z1DS4W2FA7U2s1AD397M4e2P23F34B53535A6
  262g12D7w321397ZzADM5m1be8jB3f3d16D46B2C242021212h3Y1g47v6J_13r1f197FHF41P2Y1020402020202z3K98P5
  02PBv245353532a1B2P2I212E3DZ1w3c2q1f40Z4S4m1G0W1VET6g16T3Z15724h1z4397Z15Z15d19p1DA2E26212A2E262
  14p1Ds9ALB7P52f128c25302h121403MBMAUY2I21BLBP7Pd1t171X232167222S3250X1S4Sa172TQr1BLBIEHl3e2u1o1E
  o1Ed1997b1442Mx7f12141H5p1Y1B09W1W1Lh1KSMAc2W1FAx180EO897q129539Z130Aa2532C20a1H2a173_1620232E29
  8w1697327313L2621242931323070663644C920302b12920302327E1Ug26953Vb22099d5r138O5Z1W240C9d1u1897JTQ
  3E5976w5w1c3f2M73037212T2138D9d273j13721S.1909f240Je2e37v2W1G9782i128G9PT3L2Dg26212h140212899752
  12a12125897h159t7MAG2e144EAs20m2vSd3k3IZ6jo2W3GlX1HLBwy36cIwr6v1ds1uH8U297k2297T34Cs1A3D9AK6InDi
  149d6_1X1O3Oj1g25u18GX2121C6Arc7g1VY3o3.l8326212Y9G0U230F39hCbe2g36C488941oY49dGj13M_G4459736V3r
  42yDq22c2213031332B20262W22337262R232420462pA3O2O2U2O2U2O2U2O2U2O273n1XGs15n190F0N42EnY1U75s662G
  3621246z1Y10n3i14D3950YAUIv1tEf1t6g1c6U2L91X7623212E2a6C6g1h259db132Q212030292320207050202022212
  0302020202021203326232320292G62242Grf39dW1_sf1X1ze43jq53mf7GjJZj2zGZl1gw46ff8dapLl7100AA0O050r10
  5140804020201D01k201r201r301u30dPm198P502M21m10B020306M2U2fE5BF48020Iq321422074202J2o22g4243b52b
  1307e19i1202121209Q53UA6f25b327392I30Hw13a3Fr150303j1JR5A6N268g22W4392I27313L2620433831339051243
  BB0203225513L26212121302451324083208FC228222L26212439222230G339A62227313L2621243831328251243920H
  125422341202141424B5442233070F9HC222M2F3822238122213339H327222M29243822238162233922DC222o1222463
  8439B5222H4N282036405520277931Ev16E29e1120242N202M3420262933X10O179C02020592Z15J2H2Z1A0w1f27j23b
  120603g12iA233620233e1233W1233620233E2u1233Y232A8FFHr2354hJ3G2P6g24A8LALCJDC2221Dp2405139Y122A7u
  28g16b2BU2B5BBd134Ch15P7Ac1R5.12S3A79E09D2U3BLi249I8Dp3Dt1994m13A6g132H22c16rG353b135372020202U3
  q12620422643355C6226G1o11K0T0E0HCq1C504BI0503920357020202F336450Ie1up2a778Db120603t180GNA6262626
  262626262VcG2QE24345r231322.26g12z2IVn1FXG_j6X2iqLa2j13i84RLl1592o3c183c33n2Ls150Kp1Db2B97N402m1
  3Z1DS4W2FA7U2s1AD397M4e2P23F34B53535A6262g12D7w321397ZzADM5m1be8jB3f3d16D46B2C242021212h3Y1g47v6
  J_13r1f197FHF41P2Y1020402020202z3K98P502PBv245353532a1B2P2I212E3DZ1w3c2q1f40Z4S4m1G0W1VET6g16T3Z
  15724h1z4397Z15Z15d19p1DA2E26212A2E26214p1Ds9ALB7P52f128c25302h121403MBMAUY2I21BLBP7Pd1t171X2321
  67222S3250X1S4Sa172TQr1BLBIEHl3e2u1o1Eo1Ed1997b1442Mx7f12141H5p1Y1B09W1W1Lh1KSMAc2W1FAx180EO897q
  129539Z130Aa2532C20a1H2a173_1620232E298w1697327313L2621242931323070663644C920302b12920302327E1Ug
  26953Vb22099d5r138O5Z1W240C9d1u1897JTQ3E5976w5w1c3f2M73037212T2138D9d273j13721S.1909f240Je2e37v2
  W1G9782i128G9PT3L2Dg26212h14021289975212a12125897h159t7MAG2e144EAs20m2vSd3k3IZ6jo2W3GlX1HLBwy36c
  Iwr6v1ds1uH8U297k2297T34Cs1A3D9AK6InDi149d6_1X1O3Oj1g25u18GX2121C6Arc7g1VY3o3.l8326212Y9G0U230F3
  9hCbe2g36C488941oY49dGj13M_G4459736V3r42yDq22c2213031332B20262W22337262R232420462pA3O2O2U2O2U2O2
  U2O2U2O273n1XGs15n190F0N42EnY1U75s662G3621246z1Y10n3i14D3950YAUIv1tEf1t6g1c6U2L91X7623212E2a6C6g
  1h259db132Q2120302923202070502020222120302020202021203326232320292G62242Grf39dW1_sf1X1ze43jq53mf
  7GjJZj2zGZl1gw46ff8dapLl7200A04092l3202Xy_X1509212i3202Xy_X12g20W101m112h10201m173m1985R5dPm198P
  50212Mm10B020306M2U2fE5BF48020Iq321422074202J2o22g4243b52b1307e19i1202121209Q53UA6f25b327392I30H
  w13a3Fr150303j1JR5A6N268g22W4392I27313L2620433831339051243BB0203225513L26212121302451324083208FC
  228222L26212439222230G339A62227313L2621243831328251243920H125422341202141424B5442233070F9HC222M2
  F3822238122213339H327222M29243822238162233922DC222o12224638439B5222H4N282036405520277931Ev16E29e
  1120242N202M3420262933X10O179C02020592Z15J2H2Z1A0w1f27j23b120603g12iA233620233e1233W1233620233E2
  u1233Y232A8FFHr2354hJ3G2P6g24A8LALCJDC2221Dp2405139Y122A7u28g16b2BU2B5BBd134Ch15P7Ac1R5.12S3A79E
  09D2U3BLi249I8Dp3Dt1994m13A6g132H22c16rG353b135372020202U3q12620422643355C6226G1o11K0T0E0HCq1C50
  4BI0503920357020202F336450Ie1up2a778Db120603t180GNA6262626262626262VcG2QE24345r231322.26g12z2IVn
  1FXG_j6X2iqLa2j13i84RLl1592o3c183c33n2Ls150Kp1Db2B97N402m13Z1DS4W2FA7U2s1AD397M4e2P23F34B53535A6
  262g12D7w321397ZzADM5m1be8jB3f3d16D46B2C242021212h3Y1g47v6J_13r1f197FHF41P2Y1020402020202z3K98P5
  02PBv245353532a1B2P2I212E3DZ1w3c2q1f40Z4S4m1G0W1VET6g16T3Z15724h1z4397Z15Z15d19p1DA2E26212A2E262
  14p1Ds9ALB7P52f128c25302h121403MBMAUY2I21BLBP7Pd1t171X232167222S3250X1S4Sa172TQr1BLBIEHl3e2u1o1E
  o1Ed1997b1442Mx7f12141H5p1Y1B09W1W1Lh1KSMAc2W1FAx180EO897q129539Z130Aa2532C20a1H2a173_1620232E29
  8w1697327313L2621242931323070663644C920302b12920302327E1Ug26953Vb22099d5r138O5Z1W240C9d1u1897JTQ
  3E5976w5w1c3f2M73037212T2138D9d273j13721S.1909f240Je2e37v2W1G9782i128G9PT3L2Dg26212h140212899752
  12a12125897h159t7MAG2e144EAs20m2vSd3k3IZ6jo2W3GlX1HLBwy36cIwr6v1ds1uH8U297k2297T34Cs1A3D9AK6InDi
  149d6_1X1O3Oj1g25u18GX2121C6Arc7g1VY3o3.l8326212Y9G0U230F39hCbe2g36C488941oY49dGj13M_G4459736V3r
  42yDq22c2213031332B20262W22337262R232420462pA3O2O2U2O2U2O2U2O2U2O273n1XGs15n190F0N42EnY1U75s662G
  3621246z1Y10n3i14D3950YAUIv1tEf1t6g1c6U2L91X7623212E2a6C6g1h259db132Q212030292320207050202022212
  0302020202021203326232320292G62242Grf39dW1_sf1X1ze43jq53mf7GjJZj2zGZl1gw46ff8dapLl71Z302i20W1020
  y32Xy_X1dPm198P50232Km10B020306M2U2fE5BF48020Iq321422074202J2o22g4243b52b1307e19i1202121209Q53UA
  6f25b327392I30Hw13a3Fr150303j1JR5A6N268g22W4392I27313L2620433831339051243BB0203225513L2621212130
  2451324083208FC228222L26212439222230G339A62227313L2621243831328251243920H125422341202141424B5442
  233070F9HC222M2F3822238122213339H327222M29243822238162233922DC222o12224638439B5222H4N28203640552
  0277931Ev16E29e1120242N202M3420262933X10O179C02020592Z15J2H2Z1A0w1f27j23b120603g12iA233620233e12
  33W1233620233E2u1233Y232A8FFHr2354hJ3G2P6g24A8LALCJDC2221Dp2405139Y122A7u28g16b2BU2B5BBd134Ch15P
  7Ac1R5.12S3A79E09D2U3BLi249I8Dp3Dt1994m13A6g132H22c16rG353b135372020202U3q12620422643355C6226G1o
  11K0T0E0HCq1C504BI0503920357020202F336450Ie1up2a778Db120603t180GNA6262626262626262VcG2QE24345r23
  1322.26g12z2IVn1FXG_j6X2iqLa2j13i84RLl1592o3c183c33n2Ls150Kp1Db2B97N402m13Z1DS4W2FA7U2s1AD397M4e
  2P23F34B53535A6262g12D7w321397ZzADM5m1be8jB3f3d16D46B2C242021212h3Y1g47v6J_13r1f197FHF41P2Y10204
  02020202z3K98P502PBv245353532a1B2P2I212E3DZ1w3c2q1f40Z4S4m1G0W1VET6g16T3Z15724h1z4397Z15Z15d19p1
  DA2E26212A2E26214p1Ds9ALB7P52f128c25302h121403MBMAUY2I21BLBP7Pd1t171X232167222S3250X1S4Sa172TQr1
  BLBIEHl3e2u1o1Eo1Ed1997b1442Mx7f12141H5p1Y1B09W1W1Lh1KSMAc2W1FAx180EO897q129539Z130Aa2532C20a1H2
  a173_1620232E298w1697327313L2621242931323070663644C920302b12920302327E1Ug26953Vb22099d5r138O5Z1W
  240C9d1u1897JTQ3E5976w5w1c3f2M73037212T2138D9d273j13721S.1909f240Je2e37v2W1G9782i128G9PT3L2Dg262
  12h14021289975212a12125897h159t7MAG2e144EAs20m2vSd3k3IZ6jo2W3GlX1HLBwy36cIwr6v1ds1uH8U297k2297T3
  4Cs1A3D9AK6InDi149d6_1X1O3Oj1g25u18GX2121C6Arc7g1VY3o3.l8326212Y9G0U230F39hCbe2g36C488941oY49dGj
  13M_G4459736V3r42yDq22c2213031332B20262W22337262R232420462pA3O2O2U2O2U2O2U2O2U2O273n1XGs15n190F0
  N42EnY1U75s662G3621246z1Y10n3i14D3950YAUIv1tEf1t6g1c6U2L91X7623212E2a6C6g1h259db132Q212030292320
  2070502020222120302020202021203326232320292G62242Grf39dW1_sf1X1ze43jq53mf7GjJZj2zGZl1gw46ff8dapL
  l7dPm198P502E29m10B020306M2U2fE5BF48020Iq321422074202J2o22g4243b52b1307e19i1202121209Q53UA6f25b3
  27392I30Hw13a3Fr150303j1JR5A6N268g22W4392I27313L2620433831339051243BB0203225513L2621212130245132
  4083208FC228222L26212439222230G339A62227313L2621243831328251243920H125422341202141424B5442233070
  F9HC222M2F3822238122213339H327222M29243822238162233922DC222o12224638439B5222H4N28203640552027793
  1Ev16E29e1120242N202M3420262933X10O179C02020592Z15J2H2Z1A0w1f27j23b120603g12iA233620233e1233W123
  3620233E2u1233Y232A8FFHr2354hJ3G2P6g24A8LALCJDC2221Dp2405139Y122A7u28g16b2BU2B5BBd134Ch15P7Ac1R5
  .12S3A79E09D2U3BLi249I8Dp3Dt1994m13A6g132H22c16rG353b135372020202U3q12620422643355C6226G1o11K0T0
  E0HCq1C504BI0503920357020202F336450Ie1up2a778Db120603t180GNA6262626262626262VcG2QE24345r231322.2
  6g12z2IVn1FXG_j6X2iqLa2j13i84RLl1592o3c183c33n2Ls150Kp1Db2B97N402m13Z1DS4W2FA7U2s1AD397M4e2P23F3
  4B53535A6262g12D7w321397ZzADM5m1be8jB3f3d16D46B2C242021212h3Y1g47v6J_13r1f197FHF41P2Y10204020202
  02z3K98P502PBv245353532a1B2P2I212E3DZ1w3c2q1f40Z4S4m1G0W1VET6g16T3Z15724h1z4397Z15Z15d19p1DA2E26
  212A2E26214p1Ds9ALB7P52f128c25302h121403MBMAUY2I21BLBP7Pd1t171X232167222S3250X1S4Sa172TQr1BLBIEH
  l3e2u1o1Eo1Ed1997b1442Mx7f12141H5p1Y1B09W1W1Lh1KSMAc2W1FAx180EO897q129539Z130Aa2532C20a1H2a173_1
  620232E298w1697327313L2621242931323070663644C920302b12920302327E1Ug26953Vb22099d5r138O5Z1W240C9d
  1u1897JTQ3E5976w5w1c3f2M73037212T2138D9d273j13721S.1909f240Je2e37v2W1G9782i128G9PT3L2Dg26212h140
  21289975212a12125897h159t7MAG2e144EAs20m2vSd3k3IZ6jo2W3GlX1HLBwy36cIwr6v1ds1uH8U297k2297T34Cs1A3
  D9AK6InDi149d6_1X1O3Oj1g25u18GX2121C6Arc7g1VY3o3.l8326212Y9G0U230F39hCbe2g36C488941oY49dGj13M_G4
  459736V3r42yDq22c2213031332B20262W22337262R232420462pA3O2O2U2O2U2O2U2O2U2O273n1XGs15n190F0N42EnY
  1U75s662G3621246z1Y10n3i14D3950YAUIv1tEf1t6g1c6U2L91X7623212E2a6C6g1h259db132Q212030292320207050
  2020222120302020202021203326232320292G62242Grf39dW1_sf1X1ze43jq53mf7GjJZj2zGZl1gw46ff8dapLl71m30
  dPm198P502I25m10B020306M2U2fE5BF48020Iq321422074202J2o22g4243b52b1307e19i1202121209Q53UA6f25b327
  392I30Hw13a3Fr150303j1JR5A6N268g22W4392I27313L2620433831339051243BB0203225513L262121213024513240
  83208FC228222L26212439222230G339A62227313L2621243831328251243920H125422341202141424B5442233070F9
  HC222M2F3822238122213339H327222M29243822238162233922DC222o12224638439B5222H4N282036405520277931E
  v16E29e1120242N202M3420262933X10O179C02020592Z15J2H2Z1A0w1f27j23b120603g12iA233620233e1233W12336
  20233E2u1233Y232A8FFHr2354hJ3G2P6g24A8LALCJDC2221Dp2405139Y122A7u28g16b2BU2B5BBd134Ch15P7Ac1R5.1
  2S3A79E09D2U3BLi249I8Dp3Dt1994m13A6g132H22c16rG353b135372020202U3q12620422643355C6226G1o11K0T0E0
  HCq1C504BI0503920357020202F336450Ie1up2a778Db120603t180GNA6262626262626262VcG2QE24345r231322.26g
  12z2IVn1FXG_j6X2iqLa2j13i84RLl1592o3c183c33n2Ls150Kp1Db2B97N402m13Z1DS4W2FA7U2s1AD397M4e2P23F34B
  53535A6262g12D7w321397ZzADM5m1be8jB3f3d16D46B2C242021212h3Y1g47v6J_13r1f197FHF41P2Y1020402020202
  z3K98P502PBv245353532a1B2P2I212E3DZ1w3c2q1f40Z4S4m1G0W1VET6g16T3Z15724h1z4397Z15Z15d19p1DA2E2621
  2A2E26214p1Ds9ALB7P52f128c25302h121403MBMAUY2I21BLBP7Pd1t171X232167222S3250X1S4Sa172TQr1BLBIEHl3
  e2u1o1Eo1Ed1997b1442Mx7f12141H5p1Y1B09W1W1Lh1KSMAc2W1FAx180EO897q129539Z130Aa2532C20a1H2a173_162
  0232E298w1697327313L2621242931323070663644C920302b12920302327E1Ug26953Vb22099d5r138O5Z1W240C9d1u
  1897JTQ3E5976w5w1c3f2M73037212T2138D9d273j13721S.1909f240Je2e37v2W1G9782i128G9PT3L2Dg26212h14021
  289975212a12125897h159t7MAG2e144EAs20m2vSd3k3IZ6jo2W3GlX1HLBwy36cIwr6v1ds1uH8U297k2297T34Cs1A3D9
  AK6InDi149d6_1X1O3Oj1g25u18GX2121C6Arc7g1VY3o3.l8326212Y9G0U230F39hCbe2g36C488941oY49dGj13M_G445
  9736V3r42yDq22c2213031332B20262W22337262R232420462pA3O2O2U2O2U2O2U2O2U2O273n1XGs15n190F0N42EnY1U
  75s662G3621246z1Y10n3i14D3950YAUIv1tEf1t6g1c6U2L91X7623212E2a6C6g1h259db132Q21203029232020705020
  20222120302020202021203326232320292G62242Grf39dW1_sf1X1ze43jq53mf7GjJZj2zGZl1gw46ff8dapLl71q301c
  201q201X301Y301a301c301d301f301i301j301k301l301o301t301v301p301e301h30g50GV0G11H02I03J04K05L06M0
  7N08O09P0AQ0BR0CS0DT0EU0FV0GW10HX10IY10JZ10Ka10Lb10Mc10Nd10Oe10Pf10Qg10Rh10Si10Tj10Uk100GQ0111H0
  2I05L06M07l108m109P0An10Bo10DT0EU0Fp10GW10Hq10IY10Jr10Ks10Vb10Mc10Nt10Oe10Rh10Su10Tj10Uk1000R021
  1v102I03J04K05L07N08O09P0Aw10BR0CS0DT0EU0FV0GW10HX10IY10JZ10Ka10Vb10Mc10Nt10Pf10Rh10Si10Uk1000U0
  311H02I03x104y105L06M07z108m109P0An10BR0C.10DT0EU0FV0GW10H_10IY10JW20Ks10Vb10Mc10Nt10Oe10PX20Rh1
  0Su10Tj10Uk1000R0411v102I03J04K05L07N08O09P0Aw10BR0CS0DT0EU0Fp10GW10HX10IY10JZ10Ka10Vb10Mc10Nt10
  Pf10Rh10Si10Uk1000U0511H02I03x104y105L06M07z108m109P0An10BR0C.10DT0EU0Fp10GW10H_10IY10JW20Ks10Vb
  10Mc10Nt10Oe10PX20Rh10Su10Tj10Uk1000P0612I03Y204Z205L07a208O0Aw10Bo10Cb20DT0EU0Fp10GW10Hc20Id20J
  e20Kf20Vb10Mc10Nt10Pg20Rh10Sh20Uk1000Q0711v102I03J04K05L06M07N08O09P0Aw10Bi20CS0FV0GW10HX10IY10J
  Z10Ka10Vb10Mc10Nt10Oe10Pf10Si10Tj100GG0812I05L07l108m10An10Bo10DT0EU0Ks10Lb10Mc10Nt10Qj20Rh10Uk1
  00GG0912I05L07l108m10An10Bo10DT0EU0Ks10Lb10Mc10Nt10Qk20Rh10Uk1000P0A11v102I03J04K05L06M07N08O09P
  0Aw10Bi20CS0Fp10GW10HX10IY10JZ10Ka10Vb10Mc10Nt10Oe10Pf10Si1000Q0B11H02I03x104y105L06M07z108m109P
  0An10Bi20C.10Fp10GW10H_10IY10JW20Ks10Vb10Mc10Nt10Oe10PX20Su10Tj1000Q0C11H02I03x104y105L06M07z108
  m109P0An10Bi20C.10FV0GW10H_10IY10JW20Ks10Vb10Mc10Nt10Oe10PX20Su10Tj100070D12I0Al20Fp10Lb10Nt10Qg
  10006W1m20X1n20Y1E1No20Rh10Tj101000GV0G11H02I03J04K05L06M07N08O09P0AQ0BR0CS0DT0EU0FV0GW10HX10IY1
  0JZ10Ka10Lb10Mc10Nt10Oe10Pf10Qg10Rh10Si10Tj10Uk10002Ip20Z1q20a301a1I0y101Ir20.101Is20800900C027t
  20Iu20t101Iv20A00o102Iw20Jx20502By20b1z20x102C.20I_20.208BW30b1U0c1X30d1Y30e1Z30f1a30g1b30h1c30.
  205BW30b1U0d1Y30e1Z30h1c30O01Id30300Z203He30If30Jg30j101Ih30e202Ii30Jj30n101Ik30201i1b10l100x208
  j1l30k1m30l1n30b1o30m1p30n1q30o1r30p1s30m100_101It30202q1b10p1u30r100q101Iv30s100X200C00t100o100
  002By20b1z20O00Z202If30Jg30e201Ii30n100002r1l30l1w30q100001Ip20o101Iw20y100.100C017x30x101Cy30Z2
  03Hz30If30Jg30e202Ii30J.30_100001Ir20001Is20C027_30Iu20002CW40I_20001HX40j100001JY40001Ik30001It
  30001Iv30500202q1b10p1Z40202q1b10p1a40001Jx20y201s1m20y203W1m20X1n20No20y203t1m20Y1l30l1b40c200z
  200n200r200e101Ic40j200h200i200d100001Bd40_204b1z20d1Y30u1e40h1W30z101If40k200_203b1z20d1Y30u1e4
  0002v1g40h1h40002w1i40b1j40.200002x1k40h1l40002y1m40h1n40.204BW30b1U0d1Y30e1Z30G00W201Io40a200f2
  00b200d200E01Ip40l200b300w200001Y1m30w201b1q40001Rr40001y1s40001y1t40001y1u40s200202z1b10.1v40t2
  00001Y1l30e100z100W200E00001Ic40001If40001Io40001Ip40202z1b10.1w40202z1b10.1x40y202s1m20Y1l30o20
  0v200_200m200.203v1g40_1Z30h1h40001v1g40001b1j40_203b1j40u1e40h1y40.203x1k40_1Z30h1l40001x1k40.2
  03y1m40_1Z30h1n40001y1m40q200p200w201b1m30001W2z40001y1.40001y1s30001y1m30202X2b10Q_40202X2b10QW
  50202X2b10QX50_202b1j40u1e40002W2z40Tm30001y1Y50202Y2b10Z2Z50202Y2b10Z2a50202Y2b10Z2b50001y1r302
  02a2b10b2c50202a2b10b2d50202a2b10b2e50Y1027f50i1b10Y101i1b102027f50i1b10Z100.400M001c210m120d230
  h140e250f260.170g280Q90h2A0i2B0j2C0k2D0l2E0m2F0n2G0Z2H0o2I0b2J0p2K0q2L0001e2M0001n2N0001o2O0p101
  h1P0003m2Q0r2R0p2S0001o2T0003e2U0k2V0n2W10001QX10002k2Y10p1Z10003j2a10n2b10o2c10001k2d10004h2e10
  l2f10m2g10r2h10001e2i10001e2j10001n2k10001o2l10002e2m10o2n10002e2o10Qp10002o2q10q2r10002s2s10j2t
  10001j2u10001k2v10001m2w10001o1x10001h2y10001g2z10B02r2.10q2_10001e2W20001QX20001r2Y20001e2Z2000
  1m2a20002h2b20k2c20002j2d20r2e20001Qf20001m2g20001o2h20001n2i20001n2j20N00001Z2k20V00Y200001l2l2
  0001b2m20002m2n20b2o20w100001r2p20001j2q20001j2r20001b2s20001q2t20001Z2u20001j2v20001b2w20001Qx2
  0001r2y20001Qz20001Q.20001o1_20v100001QW30001m2X30001j2Y30001e2Z30001Qa30001r2b30001b2c30c100I00
  001h2d30001Qe30001.1f30001e2g30U00001l2h30001f2i30001n2j30001f2k30001.1l30001k2m30u100001r2n3000
  1m2o30001r2p30001o1q30X100001Qr30001k2s30001s2t30001k2u30001Qv30Z300X300001b2w30001o2x30001.1y30
  001b2z30001t2.30S00001r2_30001j2W40P00Q00h100001k2X40600001e2Y40001o2Z40001g2a40001s2b40001n2c40
  K00001b2d40001Qe40001o2f40i100001Qg40b100001g2h40Y300001o1i40001b2j40T00W300L00k100001m2k40001k2
  l40001k2m40001b2n40001e2o40R00001.1p40D00J00001m2q40W100u200001o2r40F00001o1s40001q2t40f100400g2
  00001e2u40H00001Qv40001Qw40a100001k2x40001h1y40M00g100001h1z40700"

def python : Packed := ⟨"python", pythonSymbols, pythonRoles, pythonTables⟩

end SymbolIndex.Grammar
