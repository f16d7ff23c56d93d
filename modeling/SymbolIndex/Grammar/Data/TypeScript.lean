import SymbolIndex.Grammar.Packed

/-!
# The grammar of TypeScript

Its symbols, its roles and its packed tables.
-/
namespace SymbolIndex.Grammar

def typeScriptSymbols : List GrammarSymbol := [
  .hidden "end", .named "identifier", .named "hash_bang_line", .anonymous "export", .anonymous "*",
  .anonymous "default", .anonymous "type", .anonymous "import", .anonymous "=", .anonymous "as",
  .anonymous "namespace", .anonymous "\x7b", .anonymous ",", .anonymous "\x7d", .anonymous "typeof",
  .anonymous "from", .anonymous "with", .anonymous "assert", .anonymous "var", .anonymous "let",
  .anonymous "const", .anonymous "!", .anonymous "else", .anonymous "if", .anonymous "switch",
  .anonymous "for", .anonymous "(", .anonymous ";", .anonymous ")", .anonymous "await",
  .anonymous "in", .anonymous "of", .anonymous "while", .anonymous "do", .anonymous "try",
  .anonymous "break", .anonymous "continue", .anonymous "debugger", .anonymous "return",
  .anonymous "throw", .anonymous ":", .anonymous "case", .anonymous "catch", .anonymous "finally",
  .anonymous "yield", .anonymous "[", .anonymous "]", .anonymous ".", .anonymous "class",
  .anonymous "async", .anonymous "function", .anonymous "=>", .anonymous "?.", .anonymous "new",
  .anonymous "using", .anonymous "+=", .anonymous "-=", .anonymous "*=", .anonymous "/=",
  .anonymous "%=", .anonymous "^=", .anonymous "&=", .anonymous "|=", .anonymous ">>=",
  .anonymous ">>>=", .anonymous "<<=", .anonymous "**=", .anonymous "&&=", .anonymous "||=",
  .anonymous "??=", .anonymous "...", .anonymous "&&", .anonymous "||", .anonymous ">>",
  .anonymous ">>>", .anonymous "<<", .anonymous "&", .anonymous "^", .anonymous "|", .anonymous "+",
  .anonymous "-", .anonymous "/", .anonymous "%", .anonymous "**", .anonymous "<", .anonymous "<=",
  .anonymous "==", .anonymous "===", .anonymous "!=", .anonymous "!==", .anonymous ">=",
  .anonymous ">", .anonymous "??", .anonymous "instanceof", .anonymous "~", .anonymous "void",
  .anonymous "delete", .anonymous "++", .anonymous "--", .anonymous "\"", .anonymous "'",
  .named "string_fragment", .named "string_fragment", .named "escape_sequence", .named "comment",
  .anonymous "`", .anonymous "$\x7b", .anonymous "/", .named "regex_pattern", .named "regex_flags",
  .named "number", .named "private_property_identifier", .anonymous "target", .anonymous "meta",
  .named "this", .named "super", .named "true", .named "false", .named "null", .named "undefined",
  .anonymous "@", .anonymous "static", .anonymous "readonly", .anonymous "get", .anonymous "set",
  .anonymous "?", .anonymous "declare", .anonymous "public", .anonymous "private",
  .anonymous "protected", .anonymous "override", .anonymous "module", .anonymous "any",
  .anonymous "number", .anonymous "boolean", .anonymous "string", .anonymous "symbol",
  .anonymous "object", .anonymous "abstract", .anonymous "accessor", .anonymous "satisfies",
  .anonymous "require", .anonymous "extends", .anonymous "implements", .anonymous "global",
  .anonymous "interface", .anonymous "enum", .anonymous "-?:", .anonymous "+?:", .anonymous "?:",
  .anonymous "asserts", .anonymous "infer", .anonymous "is", .anonymous "keyof",
  .anonymous "unique symbol", .anonymous "unknown", .anonymous "never", .anonymous "\x7b|",
  .anonymous "|\x7d", .hidden "_automatic_semicolon", .named "string_fragment", .anonymous "?",
  .named "html_comment", .named "jsx_text", .hidden "_function_signature_automatic_semicolon",
  .hidden "__error_recovery", .named "program", .named "export_statement",
  .named "namespace_export", .named "export_clause", .named "export_specifier",
  .hidden "_module_export_name", .hidden "declaration", .named "import", .named "import_statement",
  .named "import_clause", .hidden "_from_clause", .named "namespace_import", .named "named_imports",
  .named "import_specifier", .named "import_attribute", .hidden "statement",
  .named "expression_statement", .named "variable_declaration", .named "lexical_declaration",
  .named "variable_declarator", .named "statement_block", .named "else_clause",
  .named "if_statement", .named "switch_statement", .named "for_statement",
  .named "for_in_statement", .hidden "_for_header", .named "while_statement", .named "do_statement",
  .named "try_statement", .named "with_statement", .named "break_statement",
  .named "continue_statement", .named "debugger_statement", .named "return_statement",
  .named "throw_statement", .named "empty_statement", .named "labeled_statement",
  .named "switch_body", .named "switch_case", .named "switch_default", .named "catch_clause",
  .named "finally_clause", .named "parenthesized_expression", .hidden "expression",
  .hidden "primary_expression", .named "yield_expression", .named "object", .named "object_pattern",
  .named "assignment_pattern", .named "object_assignment_pattern", .named "array",
  .named "array_pattern", .named "nested_identifier", .named "class", .named "class_declaration",
  .named "class_heritage", .named "function_expression", .named "function_declaration",
  .named "generator_function", .named "generator_function_declaration", .named "arrow_function",
  .hidden "_call_signature", .hidden "_formal_parameter", .named "optional_chain",
  .named "call_expression", .named "new_expression", .named "await_expression",
  .named "member_expression", .named "subscript_expression", .named "assignment_expression",
  .hidden "_augmented_assignment_lhs", .named "augmented_assignment_expression",
  .hidden "_initializer", .hidden "_destructuring_pattern", .named "spread_element",
  .named "ternary_expression", .named "binary_expression", .named "unary_expression",
  .named "update_expression", .named "sequence_expression", .named "string",
  .named "template_string", .named "template_substitution", .named "regex", .named "meta_property",
  .named "arguments", .named "decorator", .named "member_expression", .named "call_expression",
  .named "class_body", .named "formal_parameters", .named "class_static_block", .hidden "pattern",
  .named "rest_pattern", .named "method_definition", .named "pair", .named "pair_pattern",
  .hidden "_property_name", .named "computed_property_name", .named "public_field_definition",
  .hidden "_import_identifier", .named "non_null_expression", .named "method_signature",
  .named "abstract_method_signature", .named "function_signature",
  .named "parenthesized_expression", .named "type_assertion", .named "as_expression",
  .named "satisfies_expression", .named "instantiation_expression", .named "import_require_clause",
  .named "extends_clause", .hidden "_extends_clause_single", .named "implements_clause",
  .named "ambient_declaration", .named "abstract_class_declaration", .named "module",
  .named "internal_module", .hidden "_module", .named "import_alias",
  .named "nested_type_identifier", .named "interface_declaration", .named "extends_type_clause",
  .named "enum_declaration", .named "enum_body", .named "enum_assignment",
  .named "type_alias_declaration", .named "accessibility_modifier", .named "override_modifier",
  .named "required_parameter", .named "optional_parameter", .hidden "_parameter_name",
  .named "omitting_type_annotation", .named "adding_type_annotation",
  .named "opting_type_annotation", .named "type_annotation", .named "member_expression",
  .named "call_expression", .named "asserts", .named "asserts_annotation", .hidden "type",
  .named "required_parameter", .named "optional_parameter", .named "optional_type",
  .named "rest_type", .hidden "_tuple_type_member", .named "constructor_type",
  .hidden "primary_type", .named "template_type", .named "template_literal_type",
  .named "infer_type", .named "conditional_type", .named "generic_type", .named "type_predicate",
  .named "type_predicate_annotation", .named "member_expression", .named "subscript_expression",
  .named "call_expression", .named "instantiation_expression", .named "type_query",
  .named "index_type_query", .named "lookup_type", .named "mapped_type_clause",
  .named "literal_type", .named "unary_expression", .named "existential_type",
  .named "flow_maybe_type", .named "parenthesized_type", .named "predefined_type",
  .named "type_arguments", .named "object_type", .named "call_signature",
  .named "property_signature", .named "type_parameters", .named "type_parameter",
  .named "default_type", .named "constraint", .named "construct_signature",
  .named "index_signature", .named "array_type", .named "tuple_type", .named "readonly_type",
  .named "union_type", .named "intersection_type", .named "function_type",
  .hidden "program_repeat1", .hidden "export_statement_repeat1", .hidden "export_clause_repeat1",
  .hidden "named_imports_repeat1", .hidden "variable_declaration_repeat1",
  .hidden "switch_body_repeat1", .hidden "object_repeat1", .hidden "object_pattern_repeat1",
  .hidden "array_repeat1", .hidden "array_pattern_repeat1", .hidden "sequence_expression_repeat1",
  .hidden "string_repeat1", .hidden "string_repeat2", .hidden "template_string_repeat1",
  .hidden "class_body_repeat1", .hidden "formal_parameters_repeat1",
  .hidden "extends_clause_repeat1", .hidden "implements_clause_repeat1",
  .hidden "extends_type_clause_repeat1", .hidden "enum_body_repeat1",
  .hidden "template_literal_type_repeat1", .hidden "object_type_repeat1",
  .hidden "type_parameters_repeat1", .hidden "tuple_type_repeat1", .named "property_identifier",
  .named "type_identifier", .named "this_type", .named "statement_identifier",
  .named "shorthand_property_identifier", .named "shorthand_property_identifier_pattern",
  .named "interface_body"]

def typeScriptRoles : List String := [
  "decorator", "parameters", "declaration", "name", "body", "argument", "operator", "pattern",
  "constructor", "object", "property", "arguments", "function", "type_arguments", "return_type",
  "type_parameters", "left", "right", "label", "parameter", "source", "value", "type", "kind",
  "condition", "consequence", "handler", "finalizer", "index", "constraint", "optional_chain",
  "key", "alternative", "flags", "module", "alias", "initializer", "increment", "index_type",
  "sign"]

def typeScriptTables : String := "
  c51uBAW5X5Y5Z5f2e3j3a5b5c5B090123457891332344023420330383135213235236cA0011001000011000121001300
  024113111uB002510600017000200170101410018101vB01vB13001wB002901A0102B01C010250160102B10C00025006
  1001D1002100E1002110F000200101101220112G00H201xB2420I00112420J0001K100241030020yB020zB0201002420
  91002300L1102300M1001N0002O10P2002420L1006420N11G11611H11L110171003001701L1103001701M10020017100
  2420O1002410Q2002410R2020xB1I1020vB242031001L0002D11L110142002420F1004420111E11F1102B2081002810D
  2003101E01F0102911A1102S1191102B11C1102C11D1120vB13101vB2300D101vB2300L101vB2T1030020vB020w40023
  00D1004B10C00901A0102G00H2002420J0003G00610H2030vB.B242031002420310300uB2900A2002900A20300uB3900
  U10A2003900U10A2003B20C00D1002B20C0004420101E01F0103110E20F00022200010242000101K2101L200131001K2
  03g70uB2900A201zB2G00H2002V00L2005420300111E11F1101L1002300M2003300M10L210243032003W130O10P20064
  30N21G21621H21L2101M200200172003001701L2103001701M2004001701M10L2102410O3003410R30Q2004300111E11
  F1101001020013100101120vB243031020vB3430310F2002D10L0004D11D21L11L2102430F102012430J1004430121E2
  1F2102430J1004430111E11F1104310121E21F2105430310121E21F2103B30810D202012G10H3002G10H3002X1307100
  111002C00D1004C00901A01D1004B10C00S0190104C00S01901D1020vB2310L2020vB2T20310300vB2Y1003201vB3T10
  300L20300uB4B01C01900A2002100E20300uB4900901A01A2004900901A01A2004B01C01900A20300vB243032020vB1M
  1001M1040vB0.B243031040vB0.B3430310F2002S2090003B30C00D2002230001300vB34300013200243000103430001
  F2001K3102Z12030020vB2310L30112Z12030005430300121E21F210173004001701M20L310200173002001320030013
  10L2102310M2002300L2104300121E21F2103001310M2020vB3440310F2004D01D11L01L1104440131E31F3104320131
  E31F3105440320131E31F3102110M2002120F100132001120300uB4S01900901A2004S01900901A2020vB3T20310L300
  2110M3003110E30F00300vB2440320300vB3440320F3020vB2M10M2102M10M2150vB00.B3440310F2003W140O00P2003
  S30900U10112300M2002001L30300vB3440001320300vB4440001320F3003440001F204000vB344000133002Z1303102
  0vB3310F20L402012Z13031005440310131E31F312013G10620H3003G10620H3003450O30a1200200174004310131E31
  F311vB2300M2001M3003001320L3102320M3002310L3102310M3003310M20L310133003300M20L310200133003001320
  M3003001310L3103001310M3004001310M20L3105450330141E41F4103120M30F1002120M3002130F2004S01S2090090
  104S20900901A0104B01C01S2090003120M40F1002120M40300vB3450320F3002M01M11023103210230131101321300v
  B4450001320F304000vB34500013304000vB4450001330F4001K4005450320141E41F4102430L1004N10G20630H40044
  60O30b140a12004460O30O40a12003460O40a12002440J2004320141E41F4104330141E41F4102320L4102320M400332
  0M30L4103310M30L4102330L4103001330L4103001330M4001M400134003001320L4103001320M4004001320M30L4102
  00134004001310M30L4102330M4003130M40F2002S3090004S30900901A0104S01S3090090104B01C01S3090003130M5
  0F204000uB04000vB4460001330F4005460330151E51F5105460340151E51F5105N10G20640H50L3104N10G20640H500
  5470O30O40b150a12004470O40b150a12004470O40O50a12003450J20M302013c130310M501vB3Z140300M2003c13031
  0M5002d100M5004330151E51F5104340151E51F5103320M40L5103001330L5102330M5003330M40L5103001340L51023
  40M500200135003001330M5004001330M40L5104001320M40L5103001340M5004W160P40G00H2005470340161E61F610
  5470350161E61F6105480O40O50b160a12004340161E61F6104350161E61F6104001330M50L6130013c140320M6003c1
  40320M6002340L6103001340M6003340M50L6103001350L6103001350M6003001340L6104001340M50L6102001360023
  40M6005480350171E71F7105480360171E71F71400014c150330d100M7004c150330d100M7004350171E71F710400134
  0M60L7103001350L7103001350M7004001350M60L7104360171E71F7103001360L7103001360M7005490360181E81F81
  04001350M70L8104360181E81F8103001360L8103001360M8004001360M70L8104001360M80L91cm4111012p6101112j
  7101010aq30112p6100112p6101012p6100010iZ30010hp10112e8107112j7100112p730e2010hw20010_i10010bg100
  10de10010rX20010pe10010nh10010xH0010gh10110iu30010jg10010oh10010nf10010rh10012p730e2110dU0010yc1
  0012w5300012d9100010qw20012c9100110mp10010ne10010gC0110of40110pf40110ph40112d720J012z8105010ap30
  010xe40010hc30112r6200112ZA40w6110ls30110Z60110hp10110gD0110vh40112v6200010hG0012w5200010pl50110
  wf40110xf40010lg10112z8105010pm50010kE0112YA30c4112ZA40x6112ZA40y6112ZA50Y8112ZA50Z8112ZA50a8112
  w9100112w5300112g730h2112g730i2110d80110tY50110pF0012w5400110wA0010oY30112cA200112o6100112u72001
  10k70110cV0112n8200110id50112w910D012d720J012W670g8110ok10112w5200010rh40010mf10110xH0012W820001
  2W830j3112w910F010jJ0112l930c4112aA20b2112r7208110wc40110xc40110ue40110ve40112YA30e4112YA30f4112
  YA30g4112YA30j5112YA30k5012r6200110jC0110gC0010YL0110_X20112n9200112p9100012g730h2012g730i2112_8
  30a4010cK0112lA100112q7208110vp30110Y60012i5100112_A30d4112_A40n5012d550s4012k550s4012v6200012l8
  40t3012l850d5110ZY10110aY10110hw20010bb10112r630V110n60110rX20010qI0110cD0010ld50112f7200010.K00
  10dL0110bL0010al10010ou10110hG0012t7200012t7300010uw20012n6300012n640Z3012x630h2012x630v2010cc30
  012y8206012z820U112q6100014112t7200112t7300112w5400110vg10010ee10010pc50110pw20110xD0010i50010yH
  0010.H0110nm50112gA100112d9100110e60112c9100110sD0110kE0012z7200110qw20110qu30110lO0110s20010bf1
  0110uF0010sw10010gn50112y7200112y7300112y7400112W8200112W830j3112nA200012o6100110b80112g870h9010
  rw20112y640p4112y650x5112y650y5112y660a7112g860z7112g870l9112g880u9010rb30010qi30010zc40012z630n
  1012z640k3012z640l3012z640p4012z650a5012z650x5012z650y5012z660a7012W740u3012W750e5012Y750e5012Y7
  60s6112x630h2112x630v2112y630n1112y640k3112y640l3112y650a5112_640u3112_650e5112X750e5112X760s601
  2d540r2012d550w5012k540r2012k550r2012k560s4110j70010vg10012q7208012r7208012n8200112o8300112bA20.
  3010nZ30010ch30012ZA40w6112y8206112z820U112hA208112w730f1112l930i2010qh10112mA300112mA400112mA50
  0012q6100110jF0112m920J112nA300112nA400112nA500112nA600012cA200112xA200110nk10112y9200010jd50010
  kd50010hm50010vn50012f7200012u7200110lk10110i60110X.40110ce50112p910G012XB20O110XA0112n6300112n6
  40Z3010yD0112YA30i2112ZA50X8010aE0010a50010hC0010iC0110bq30110WE0112g850n6112g860t8112g860z8112g
  870d9010sX20012y7200012y7300012y7400112l930e4112l930f4112l930g4112p910H112zA200112zA300010xD0110
  mD0112q820L112aA20W4112lA20Z2112z920Y2010cE0010XV0110sC0110cE0112m920b2110qc50112_920_1112_920a2
  112v940m5112v950z6112v950.6112v960b8112y9300112bA20_3112bA20X4112cA20w1112cA20x1112cA20z1112eA40
  0112gA10I112iA100112kA300112wA300112xA300112xA400112xA500112.A200112.A300010vv20010vF0110zI0112Z
  730S112Z730d2112Z730n2112Z740p3112Z740r3112Z740s3010XG0112cA20y1012nA200012r630V012nA300012nA400
  012nA500012nA600110zF0112z940Y2112.970X9112WA30v5112WA30.2112dA200112yA200010uF0010cd50110gL0010
  ep10010Yd40010_U0012YA30c4012ZA40x6012ZA40y6012ZA50Y8012ZA50Z8012ZA50a8110jJ0010Z50010ZG0010iG00
  10kG0110ZG0110em50112v6300012w730f1012w9100110zU0110.U0110WV0110aL0110YL0110hL0112jA200110iB0110
  _E0110cK0010ig10010am10010tx10112g870y8112g880w9112g730j2112g730k2112h740m4112h750u5112i8200010d
  U0010Yg20010Xf30110fL0112g880v9112g890WA012mA300012mA400012mA500110y90110qI0010eq20010uC0110wE01
  10bH0110gH0110sJ0012.730h2110.K0110dL0010c50010WD0010lE0010vE0010.I0110kg50012_720J012_730l2012m
  8300012XB102110pG0110aI0110kK0010ue10010pg50010bJ0110yC0112d550s4112i5100112Z8111112l840t3112l85
  0d5110ZV0110aV0010jd10010sC0010fO0022p61002gA100012y630n1012y640k3012y640l3012y640p4012y650a5012
  y650x5012y650y5012y660a7012_640u3012_650e5012X750e5012X760s6110XJ0110kO0010ib10010n40010WN0112y6
  30q2112y640q4112y640r4112y650z5112g850z7112g860w8112g860W9112g870m9010l30010qf20010_f20010ah3001
  0li30010YD0010rc50010sc50010tc50010zI0012l620B012l650k7012l660l8110Y_20110YD0112r6300112r6400112
  r640V012d5204012d5300012d530P012d530p2012d5400012d540o4012d540s2012k5300012k530T012k5400012k540T
  012k540u2012k550u2012r5100012s5200012t5300012t5400012u530b1012u540b1012x5200012y540X3012z530d101
  2.560b6012.570h7012.570i7012.570j7012.580i8012.580j8012.580k8012.590a9012_530e1012_540Y3012X630j
  1012Y640e3012Y650e3012Z620B012Z630k1012Z630l1012Z640f3012a630Y1012b6200012b630m1012c6200012c630m
  1012d6200012e6200012e6300012f6300012g6100012h631R012i6200012i6300012m620B012z640n1012z650k3012z6
  50l3012z650p4012z660a5012z660x5012z660y5012z670a7012W750u3012W760e5012Y760e5012Y770s6012v8200012
  v8300012v870c8012w840h4012w850o5012w850p5012w850.5012w860_6012w860b7012w860c7012w870d8012x820601
  2.8500012W930f2012W940k4012W940l4012W950s5012Y930g2012Y940W3012Z9200012Z9300012Z930t2012Z9400012
  Z940X7012Z940Z7012Z940t2012Z950X7012Z950Z7012b950u4012b960W6012p9100010na10010ef10010ag10010ij10
  010ed40010dJ0010qM0012y530c1110dJ0112W670g8112v6400112y620B112y630q1112y630r1112y640o3112_630s11
  12_640q3112X740q3112X750c5112d730l2112d730m2112d740n4112e730t1112e740v3112r720K112u7300112w740y3
  112x7300112p8300012aA20b2010qX20010uv20010f90010V0010x90010Yh40010Zh40010XF0010iz40010kz40010lz4
  0010dH0010.20012W650Z6012W650a6012W660g7012W670h8012_830a4012YA30e4012YA30f4012YA30g4012YA30j501
  2YA30k5112e730u1012l930c4012w910F122p61012Z8111010eF0012n9200110Zi50110bE0010ke10010tY20110aF011
  2g850t7110.k10110yD0010re10010w40010_E0010hH0010tJ0012q820L012w910D010iZ10010WE0012_A30d4012_A40
  n5112k550s4112g840n6112g850s7112g860.8010gF0010rG0010oH0010bI0010.J0010lK0012kB30h3110eZ10110fZ1
  0110hZ10110gF0112e720C010.o50010ap50110YG0010X80010YZ30010XE0010yG0010iI0010sK0012o8300110pC0110
  kH0110wJ0112Z8110010sg50110YE0110vF0010y40010ZE0010gH0010sJ0022p61010ph40110gV0110uG0110eI0110oK
  0122p61010e60010zF0010fe50012g730j2012g730k2012h740m4012h750u5012e8107012i8200110.D0122e81070.k1
  0122e81070W10010sa10010kc10010g50010qb30010mi30010qH0010xm50010Zn50010mn50010no50010aI0010kJ0010
  mJ0010WK0010tM0010uN0022p61002w910D022p61012lA100110hV0110iV0110_D0110qH0110Xn50110WK0110yU0112d
  540r2112d550w5112z630n1112z640k3112z640l3112z640p4112z650a5112z650x5112z650y5112z660a7010Z40010f
  o20010pG0010kK0010X30110.90110dE0110WF0010rd10010qe10010xh10010Xh40010gz40010hz40010jz40010.F001
  0.G0010kI0010uK011040110.G0110kI0110uK0112W740u3112W750e5112Y750e5112Y760s6112z7200112g840.4112g
  850w7112g850x7112g860_8010d50010ZL0010iL0011012hA208012lA100110ZA0110_F0110qn50010t30010h50010Yn
  20010WG0010dK0010eK0110en50010gZ10010ac10010jh10010dD0010zg40110xF0122p61002gA100112g860y8112g87
  0k9010of10010kg10010hh10010ph10010sh10010Wm10010lm50012v6300110_j10110yF0110vg50110fj50112i730c2
  010pa10010qa10010ra10010pd10010me10010go20010tm50010_m50010sL0010XM0010sM0010W30110I0110XD0110aG
  0110qG0112i730Q010ja10010mb10010lc10010Wg10010e50010XZ30010rI0010tI0010oM0010YN0010vN0022p61012e
  8107110oC0110kk50110vm50110cJ0122p61012e8107112g870j9112g880x9010za10010oc10010y30010a40010b5001
  0f50010lk20010bp30010_K0010WL0010eL0010kL0010yM0010iN0010yN0110W90110uC0110kn50110ko50010e30010d
  40010tg10010yh10010t40010ff20010ho20110ch10110WB0110.I0112k540r2112k550r2112k560s4112q6200112q63
  00112i740w3112i740x3112k730e2112o750t5112k920w1112XB20O010uf10010ch10010_h10010.40010yC0110h6001
  0XJ0110YV0112a820X1112g930a3010ve10010tk10010uw10010rY20010sY20010fZ30110ts20110fF0112a8200010uW
  10010rZ30010zC0010bi50012gA100110pk1011070110k20112g830.4010zc10010nu10010Wi30010YJ0010t20012l93
  0i2012m920J012p910G012p910H012y9200012_920_1012_920a2012YA30i2012ZA50X8012aA20W4012bA20.3012cA20
  y1012xA200110qW10110rW10110tW10110qs20110mZ30110nZ30110.C0110qb40110Yg40110Zg40110XF0110dP0110w2
  0010x40010ih20010_C0010id50010ai50010fH0010ro50012l930e4012l930f4012l930g4012m920b2012v940m5012v
  950z6012v950.6012v960b8012y9300012z920Y2012bA20_3012bA20X4012cA20z1012dA200012eA400012gA10I012iA
  100012kA300012lA20Z2012wA300012xA300012xA400012xA500012.A200012.A300110T0110d_20110h_20110pH0110
  ZJ0110_J0010sW10010lg40010aF0010aJ0012cA20w1012cA20x1110.B0110wC0110zG0110jI0110tK0010yp20010t.2
  0010oZ30022p61002w910F022p61010xH0012r6300012r6400012r640V012v6400012y620B012y630q1012y630r1012y
  630q2012y640o3012y640q4012y640r4012y650z5012_630s1012_640q3012X740q3012X750c5012Z730S012Z730d201
  2Z730n2012Z740p3012Z740r3012Z740s3012d730l2012d730m2012d740n4012e730t1012e730u1012e740v3012r720K
  012u7300012w740y3012x7300012zA200012zA300110qW20110e80110ss30110xC0110hH0110_I0110tJ0122p61002Z8
  110010z40010_40012Y820B012b8A0_9012b830y2012b840u3012b840w4012b850e5012b850Y6012b860s6012b860e70
  12b870e8012b870f8012b880Y9012b880Z9012b890p9012b890q9012kB100012kB200012kB20h3110tC0110ZD0110rG0
  110bI0110WJ0110lK0112.730h2010W50010X50010Y50010_Y30010WZ30010_b30010bF0010kH0010wJ0022r62002nA2
  00012s6200022v62002xA200012e720C012Z8111110ak10110gk10110eJ0110nJ0112g940z4010.u30010mC0010xa400
  10wd40010uG0010eI0010oK0012z940Y2012.970X9012WA30v5012WA30.2012jA200012yA200110tA0110cF0122p6100
  2w910D122p61012lA100112s6200112w6200122y620B2y630q2122y630n12y640p4122y630q12y640q4122y630r12y64
  0r4122y640k32y650x5122y640l32y650y5122y640o32y650z5122y650a52y660a7112_720J112_730l2010ob10010sE
  0010dF0010.f50010aN0012p8300110Xr10110ur10110ow10110l70110kj40110z_40112d5204112d5300112d530P112
  d530p2112d5400112d540o4112d540s2112t5300112t5400112u530b1112u540b1112W750u3112W760e5112Y760e5112
  Y770s6112m8300112v8200112v8300112v870c8112w840h4112w850o5112w850p5112w850.5112w860_6112w860b7112
  w860c7112w870d8112x8206112.8500112W930f2112W940k4112W940l4112W950s5112Y930g2112Y940W3112Z9200112
  Z9300112Z930t2112Z9400112Z940X7112Z940Z7112Z940t2112Z950X7112Z950Z7112b950u4112b960W6112XB102112
  kB30h3010lH0010xJ0110nA0110YF0112g840g6112g840o6112g850y7010of20010rF0010vG0010fI0010pK0012w6200
  022u72002y9200110vW10110kf20110bu20110vz20110jB0110ZF0110ld50110mH0110yJ0122p61010pF0112s630W101
  0eW10010dX10010.c10010Yg10010xg10010zg10010Wh10010bh10010dh10010Xi10010ci10010ti10010vi10010xi10
  010zi10010Wj10010Yj10010aj10010ej10010zh30010Yi30010yE0010tF0010xg50010hj50010nH0010zJ0110aW1011
  0bW10110dW10110ZX10110aX10110cX10110bh10110dh10110Zm10110am10110jw10110sx10110tx10110M0110wa4011
  0ub40110zD0110hF0110wG0110gI0110qK0110jL0110cP0110eP0110v20110x20112f8300010qX10010XY10010qb1001
  0yd10010eh10010fh10010vh10010fm10010yx10010Y80010kc30010bf30010ai30010gi30010mp30010xG0010mk5001
  0hI0010rK0110mX10110nX10110pX10110zX10110.X10110WY10110uY10110mZ10110eh10110fh10110tY20110r70110
  Wf30110Xf30110eh30110wb40110ne40110dg40110eg40110iH011060110uJ0110fP0110y20112j5100112y530c1112g
  6100122p61002w910F132e81072cB20V2dB20W1010cW10010bX10010el10010bm10010su10010ux10010ig40010ng400
  10wg50010gj50010zn50010to50022Z81110dH0110sG0110jH0110cI0110vJ0110mK0112k5300112k530T112k5400112
  k540T112k540u2112k550u2112r5100112s5200112x5200112y540X3112z530d1112.560b6112.570h7112.570i7112.
  570j7112.580i8112.580j8112.580k8112.590a9112_530e1112_540Y3112X630j1112Y650e3112Z620B112Z630k111
  2Z630l1112Z640f3112a630Y1112b6200112b630m1112c6200112c630m1112d6200112e6200112e6300112f6300112h6
  31R112i6200112i6300112l620B112l650k7112l660l8112m620B112z640n1112z650k3112z650l3112z650p4112z660
  a5112z660x5112z660y5112z670a7112k920y1112gB200010d30010oX10010_X10010wa10010xa10010ya10010ae1001
  0lf10010pw20010jX30010xg30010pg40010sg40010yy40010pb50010qb50010rb50010lk50010.n50010vo50010zo50
  010tL0010aM0010xM0022p61000YV0110vY10110qZ10110u4011050110tG0110rH0110_H0110dI0110XK0110fK0110nK
  0112v5105112Y640e3122p61000ie50122p61012a820X1112s6300112s6400112s640W1112w6300112w6400122u72002
  y9200112X8200112X8300112X8400112X8500010.70010.Y30010Yf30010ph40010qm50010pJ0010zU0010.U0010WV00
  10YV0110aD0110eE0110iF0110bG0110_G0110WH0110sH0110lI0110mI0110uI0110fJ0110YK0110vK0110wK0110XL01
  10lL0112W650Z6112W650a6112W660g7112W670h8010.e20010zp20010xr20010sc30010ve30010ze30010_e30010df3
  0010tg30010.i30010sj30010nq30010kD0010fd50022WB2000ne11110o70110cr20110ps20110au20110dZ30110cd30
  110ah30110li30110oi30110pi30110XB0110yp30110mq30110rd40110sd40110oz40110rc50110sc50110tc50110yc5
  0110zc50110iT0112b8A0_9112b830y2112b840u3112b840w4112b850e5112b850Y6112b860s6112b860e7112b870e81
  12b870f8112b880Y9112b880Z9112b890p9112b890q9112j820g3112j830t3112j830Y5112j840d5112j840d6112j850
  l7112j850m7112j860q8112j860r8112j870b9112j870c9112j880t9112j880y9112j890XA112cB20V122cB20V2dB20W
  1010q70022y620B2y630q2022y630n12y640p4022y630q12y640q4022y630r12y640r4022y640k32y650x5022y640l32
  y650y5022y640o32y650z5022y650a52y660a7022kB20O0iZ31110uj10110wF0110bM0122r62002nA200122v62002xA2
  00112a7103112a720M112a720N112a730o2112o9200112XA200010uh10010.c20010Zd20010pd20010bg20010yq20010
  ZZ30110fW10110cY20110W80110S0110jA0110f.4011080122p61010cD0112l720z2112g8A0bA112g880n9112g890YA1
  12g890ZA010gW10010wW10010eX10010o30010mg10010pW20010ug20010kj20010z80010.90010yU0110rX10110bY101
  10rY10110la10110O0110cB0110oB0110uB0110aC0110va40110jh40110Z20112Y820B112kB200010xZ10010w30010fc
  10010nr10010or10010r50010rw10010kY20010sb20010kc20010fr20010ss20010p20022p61010fA0022p61010pl500
  12Z8110022Z81110uD0022Z81110rF0110kZ10110nZ10110v40110u70110or20110rs20110W10110gA0110hd30110fi3
  0110Yp30110Zp30110Wr30110ms30110xh40110m10110fc50110ql50110rl50110sl50110rn50110yo50110dV0112g91
  09112g920f1112pA105112pA205112pA20t2112pA30h5112pA30t2112pA40h5112pA40l6112pA50l6112pA50v7112pA6
  0v7112kB100112kB20h3010hW10010fX10010Zr10010nd20010v70010bh30010gM0022p61010qs20012s630W1110wV01
  10xV0110yV0110sX10110cY10110oZ10110pZ10110w70110s80110WA0110od50110pd50122p61002a8200112c7100122
  e81070Xr10122e81070ur10122e81070zu10122e81070ow10122e81070ch20112g820t2112g830t2112g840h5112eB20
  0010oa10010le10010fv10010va20010Xg20010dg20010eg20010fg20010gg20010fq20010fA0010Zq30010rC0010.h4
  0010rJ0010rM0010_20022p61010dU0022Z81110pJ0012g9109012g930a3110pV0110qY10110dk10110jk10110s40110
  g80110pp20110zz20110Y.20110c_20110hA0110Yj30110Zr30110dr30110fr30110ir30110jr30110kr30110pr30110
  rr30110vr30110wr30110ns30110ps30110xs30110Xt30110Yt30110Zt30110_B0110Wu30110Yu30110Zu30110au3011
  0lD0110We40122p61010Z60122p61010l70122p61010ls30122r62002s6200122r630V2s630W1122v62002w6200112h8
  101112g920i1112g940x4112g950c6010b30010YY10010nY10010rZ10010va10010uc10010kf10010xl10010ww10010t
  80010bj30010uD0010wD0010mG0010de50010un50010XI0010wI0010hK0010wM0010Z30022Z81100tF0110wW10110sY1
  0110zl10110zu10110w50110K0110yg20110t70110ol20110h80110iu20110z90110oA0110xi30110zp30110c10110iw
  40110zy40110.y40110_z40110nX50110ie50112u630w2112s7200112qA300112qA400112qA500112rB200010_b10010
  Zc10010nc10010Yd10010cd10010td10010be10010Xf10010cf10010df10010hf10010pf10010c40010fg10010pg1001
  0rg10010sg10010Yh10010.h10010cv10010ey10010yb20010dd20010hd20010ig20010jh20010hl20010xp20010jq20
  010_i30010dh40010_h40010Xi40010.E0010mF0010oG0010hn50010ZI0010yI0010jK0010yL0010xN0010YO0022p610
  00gA0012g940z4110ai10110fi10110ii10110li10110oi10110ri10110qn10110g.10110i80110g_20110n_20110oa3
  0110td30110Zg30110tq30110vq30110ar30110mr30110is30110xt30110WZ40110rD0110Ze50110dM0110iQ0112v520
  Z1112g8205112g830i3112g840l6112g840p6112g840q6112g850r7112g850v7112g850.7112g860v7112g870n9112g8
  80z9112g880.9112g890aA112h8100122cB1002dB100010ta10010vw10010a6001020010_70010vi30010ah40010xc50
  010im50010wn50010uM0022Z81100wD0022Z81100fH0022WB2000rX21022WB2000gC1110eV0110fV0110Xk10110uX201
  10q60110vs20110_s20110Xt20110hu20110ju20110bh30110mu30110Ww30110ge40110gf40110hf40110bh40110ch40
  110rd50132p61002Z81102w910D122p61002g9109132r62002s62002nA200132v62002w62002xA200112n7200112e810
  0112h9200112i9200112j9200112oA10v1112pA20a1112pA30W5112pA30.2112pA40h6112pA40j6112pA50o7112pA50_
  7112pA60u8112pA60x8112pA70o9112uA20z3112uA30f5112uA30g5112uA30i5112uA40t6112uA40u6112uA40v6112uA
  50W8112vA40f6112vA50u7112vA60m8112vA60o8112vA60p8112vA70e9112vA70f9112vA80r9112vA80s9112aB200112
  fB200112nB200010n30010lb10010rb10010sb10010zf10010og10010fk10010sl10010kr10010Yt10010Zt10010hu10
  010wu10010hY20010lZ20010wZ20010na20010ua20010tb20010Yc20010lc20010qd20010kg20010lg20010kh20010Z8
  0010oq20010Zt20010x.20010eZ30010dh30010ru30010iD0010gE0010kF0010dG0010dd50010_d50010XH0010tH0010
  nI0010gJ0010ZK0010xK0010iM0010XN0022p730e20t40022p730e20w40022p730e20x40022p730e20y40022p730e20z
  40022p730e20.40022p730e20_40022p730e20W50022p730e20X50022p730e20Y50022Z81100rJ0012a820X1012g920f
  1110zV0110fo10110p50110Y_10110.c20110Zd20110f80110us20110ht20110cu20110e.20110m_20110p_20110hX30
  110_90110xa30110ad30110hg30110vA0110Zi30110bi30110hj30110wj30110_j30110dB0110pB0110Wq30110jq3011
  0qr30110sr30110vB0110zr30110.r30110js30110bt30110bu30110bC0110vC0110rZ40110hD0110td40110fE0110xx
  40110..40110va50110.c50110_c50110X20110eM0110qP0110ZQ0110aQ0110kQ0110iR0110fU0112m520T112v730011
  2d830x2112r860d7112eB100122eB1002fB100112oB20j4010qV0010c30010uZ10010wZ10010Xa10010Ya10010Za1001
  0_a10010pb10010Wd10010ck10010.p10010kq10010jr10010cs10010ds10010fy10010gy10010rz10010mW20010xZ20
  010yZ20010sa20010od20010rd20010Wf20010zf20010Zh20010wl20010dn20010yn20010.n20010Wo20010Yo20010bo
  20010lp20010qp20010_p20010Xq20010ws20010yv20010X90010vx2001030010wz20010xz20010u.20010v.20010w.2
  0010s_20010tY30010Wc30010nC0010bD0010eD0010jD0010fd40010hE0010lF0010eG0010YH0010qg50010uH0010oI0
  010hJ0010aK0010yK0010mL0010pL0010uL0010xL0010hM0010jM0010e20010mM0022p61002e8107032p61012e81070p
  h40012a8200022kB20O0sw11110nV0110kW10110zW10110fY10110lY10110oY10110zY10110Zi10110bi10110ei10110
  gi10110hi10110ji10110ki10110mi10110ni10110pi10110qi10110si10110xj10110qk10110Xl10110rp10110Zr101
  10iu10110sz10110jY20110zZ20110m70110rl20110Wt20110jt20110wt20110du20110dW30110tZ30110aA0110nb301
  10uc30110sh30110xh30110Xi30110hk30110el30110in30110pY40110nF0110tF0110l.40110z.40110cG0110fH0110
  ok50110pk50110Wo50110_o50110W20110Y20110mN0110YO0110q20110wQ0110xQ0110yQ0110zQ0110oR0110pR0110qR
  0110rR0110sR0110tR0110WS0110cS0110dS0110eS0110kS0110lS0110rS0110vS0110iU0110lU0110oU0110rU0110uU
  0112f5200112f5300112f5400112f5500112v520a1112v530.2112v530_2122p61002e8107132p61012e81070e60112t
  630c2112u630c2112g8105112g820i3112g820Z1112g820a1112g830_4112g830W5112g830X5112g830Z5112g830.211
  2g830_2112g840h6112g840i6112g840j6112g840k6112g840m6112g840r6112g850n7112g850o7112g850p7112g850q
  7112g860s8112g860u8112g860v8112g860x8112g870g9112g870i9112k830t3112k840d5112k840d6112k850l7112k8
  50m7112k860q8112k860r8112k870b9112t810o1112t820m3112x9300112tA200112YB200112ZB200112cB200112dB20
  0122jB1002qB100112lB200112mB20p1122rB2000vj11112sB200112tB200010g30010i30010tZ10010vZ10010Wa1001
  0ua10010.a10010Wb10010Xb10010nb10010vb10010v30010Wc10010Xc10010bc10010mc10010pc10010z30010se1001
  0b40010rf10010Xg10010e40010ng10010ug10010ih10010zh10010Wi10010Yk10010Zk10010sk10010uk10010vk1001
  0zk10010dl10010gl10010hl10010jl10010gp10010lq10010rr10010sr10010Ws10010Xs10010j50010bs10010n5001
  0ku10010Wv10010Yv10010hv10010zw10010hx10010kx10010lx10010vX20010wX20010fZ20010mZ20010vZ20010oa20
  010ta20010ab20010fb20010hb20010ed20010id20010c70010Zf20010g70010lf20010mf20010tf20010uf20010Zg20
  010hg20010jg20010mg20010ng20010pg20010tg20010.g20010Wh20010Yh20010lh20010_k20010Wl20010il20010jl
  20010cn20010hn20010jn20010ko20010Wq20010aq20010gq20010iq20010kq20010lq20010nq20010pq20010qq20010
  rq20010sq20010tq20010uq20010vq20010wq20010zq20010.q20010_q20010Wr20010Xr20010Yr20010Zr20010ar200
  10br20010Yt20010sv20010tv20010wv20010W.20010X.20010r.20010y.20010..20010_.20010W_20010rX30010vY3
  0010pb30010Zc30010jc30010nc30010og30010qg30010uh30010vh30010fi30010ii30010ji30010Zj30010aj30010n
  o30010Yp30010dp30010np30010sp30010lC0010vc40010Wi40010zi40010Wj40010iE0010oE0010rE0010tE0010uE00
  10p.40010kW50010iX50010fG0010jG0010re50010ve50010ZH0010Zi50010ql50010rl50010ym50010an50010nn5001
  0rn50010vH0010oo50010zH0010sI0010lJ0010cL0010.L0010WM0010YM0010ZM0010lM0010vM0010zM0010.M0010ZN0
  010cN0010jN0010h20010kN0010lN0010i20010wN0010zN0010z20010Y30012j630z2012j640f7012k6200012k630q10
  12X920j4012g920i1012g940x4012g950c6012k920w1012WB200022kB20O0of21012oB20j4110kV0110oV0110rV0110l
  W10110.W10110gY10110mY10110pY10110.Y10110ba10110eb10110fb10110gb10110hb10110C0110xb10110we10110z
  e10110.e10110Yf10110Zf10110af10110wj10110yj10110zj10110.j10110rk10110Zl10110.l10110im10110zm1011
  0bn10110Zo10110to10110pp10110qp10110fr10110vr10110mw10110ay10110ey10110kz10110wz10110c.10110w.10
  110m_10110XW20110kW20110ZY20110dY20110Xh20110n70110x70110hr20110qr20110ns20110at20110it20110yt20
  110Xu20110eu20110ku20110qu20110ru20110dx20110nx20110wx20110xx20110.z20110_z20110Z.20110a.20110b.
  20110c.20110d.20110f.20110g.20110h.20110k90110i.20110j.20110k.20110l.20110m.20110n.20110o.20110p
  .20110q.20110n90110o_20110o90110q_20110q90110fW30110gW30110s90110u90110w90110xY30110ba30110ga301
  10pa30110_a30110bA0110sb30110eA0110mc30110rc30110fA0110dd30110ed30110fd30110id30110jd30110kd3011
  0ld30110md30110nd30110od30110pd30110qd30110rd30110sd30110iA0110ud30110vd30110wd30110xd30110yd301
  10zd30110.d30110_d30110We30110Xe30110Ye30110Ze30110ae30110be30110ce30110de30110ee30110fe30110ge3
  0110he30110kA0110ie30110je30110ke30110le30110me30110ne30110oe30110pe30110qe30110re30110lA0110se3
  0110mA0110ef30110sf30110xf30110_f30110ag30110lg30110rg30110.h30110zi30110lm30110hn30110Wo30110do
  30110fo30110Yq30110as30110gs30110hs30110ks30110yu30110Yw30110Zw30110f10110nY40110qY40110rY40110_
  Y40110ZZ40110aZ40110cZ40110dZ40110eZ40110mZ40110qZ40110sZ40110tZ40110uZ40110vZ40110ba40110ca4011
  0da40110ma40110na40110bb40110Zd40110ad40110ce40110_e40110Wf40110if40110jf40110i10110qf40110rf401
  10yf40110zf40110ag40110bg40110fg40110gg40110dh40110j10110.i40110gj40110lj40110mj40110tj40110ck40
  110nE0110l10110ew40110ly40110_y40110cz40110_.40110._40110__40110ZW50110lY50110rY50110nZ50110ra50
  110sa50110ab50110gb50110hb50110ib50110sd50110ne50110s10110we50110ze50110cf50110Yh50110ii50110oj5
  0110sk50110nl50110Xo50110Yo50110v10110y10110z10110_10110cM0110fM0110aP0110kP0110lP0110mP0110nP01
  10sP0110uP0110vP0110xP0110yP0110XQ0110YQ0110hQ0110jQ0110nQ0110oQ0110pQ0110cR0110dR0110gR0110hR01
  10nR0110YS0110sS0110lT0110mT0110nT0110sT0110tT0110uT0110aU0112c5100112g5105112g520t2112g530t4112
  g540_5112l5100112p5105112p520t2112p530t4112p530v4112p540_5112p540X6112q5200122v51050_W50132p6100
  2w910D2a8200132p61002gA1002a8200132p61012lA1002a820X1122u630w22i730Q122x630h22_830a4122x630v22_8
  30a4112.6100112c830x2112s820p1112s830n3112X920j4112a920Z1112e910A112e920g1112e920h1112e930d3112f
  920A112f930b3112f930c3112f940y4112q920a1112r930.2112s9200112t9200112u9100122w910D2rA10E112rA10E1
  12rA20.1112rA20W2112rA20X2112rA30Y4112rA30Z4112rA30b4112rA40l5112sA200112WB200122WB2000gC1122WB2
  000jC1122XB20O0iu31112cB100112dB100112dB20W1112fB100122hB2000rd41122iB2000sd41122jB2000jq31122kB
  20O0vz21122kB20O0ce51112mB20b5112oB20i4112pB200112pB20t2010a30010qW10010rW10010tW10010f30010h300
  10j30010k30010qY10010m30010eZ10010fZ10010hZ10010sZ10010yZ10010zZ10010p30010.Z10010_Z10010da10010
  q30010ea10010fa10010ga10010ha10010ia10010ka10010r30010s30010Yb10010jb10010kb10010u30010tb10010ub
  10010wb10010zb10010.b10010Yc10010cc10010gc10010hc10010ic10010jc10010x30010qc10010rc10010sc10010v
  c10010wc10010_c10010Xd10010Zd10010ad10010bd10010dd10010ed10010fd10010gd10010hd10010.30010id10010
  kd10010ld10010md10010nd10010od10010_30010ud10010zd10010.d10010W40010Xe10010ce10010fe10010X40010g
  e10010he10010ie10010je10010Y40010Wf10010if10010qf10010tf10010vf10010wf10010.f10010Zg10010cg10010
  f40010yg10010.g10010Xh10010h40010i40010wh10010j40010Yi10010di10010k40010l40010ui10010wi10010yi10
  010.i10010m40010Xj10010Zj10010bj10010fj10010o40010p40010q40010ik10010r40010wk10010pl10010jm10010
  lr10010pr10010yr10010k50010l50010m50010at10010bt10010o50010bu10010ju10010ru10010_u10010t50010cw1
  0010x50010qw10010y50010xw10010.w10010z50010ax10010bx10010cx10010dx10010ex10010.50010ix10010jx100
  10mx10010_50010W60010Yy10010by10010X60010._10010WW20010YW20010eW20010jW20010oW20010rW20010eY2001
  0fY20010iY20010gZ20010hZ20010iZ20010nZ20010_Z20010ja20010ka20010la20010ma20010pa20010qa20010Zb20
  010bb20010cb20010db20010eb20010gb20010ob20010pb20010qb20010rb20010ub20010vb20010xb20010Wc20010ec
  20010hc20010ic20010xc20010yc20010_c20010Xd20010Yd20010bd20010cd20010sd20010bf20010cf20010if20010
  jf20010sf20010wf20010_g20010ah20010p70010lj20010kk20010mk20010nk20010ok20010rk20010tk20010uk2001
  0wk20010xk20010Xl20010Yl20010cl20010dl20010el20010fl20010kl20010ml20010tl20010en20010fn20010gn20
  010in20010kn20010ln20010mn20010nn20010on20010pn20010qn20010rn20010sn20010tn20010un20010vn20010wn
  20010xn20010c80010zn20010_n20010Xo20010Zo20010co20010eo20010io20010ap20010dp20010ep20010fp20010g
  p20010hp20010ip20010jp20010kp20010mp20010np20010rp20010j80010Yq20010bq20010cq20010k80010l80010m8
  0010n80010ir20010o80010xs20010zs20010.s20010bt20010ct20010dt20010ft20010gt20010lt20010ot20010pt2
  0010qt20010st20010tt20010ut20010v80010.t20010Wu20010w80010x80010nu20010y80010.80010_80010ew20010
  Y90010Z90010a90010b90010c90010d90010e90010yy20010uz20010z.20010X_20010v_20010iX30010aZ30010mZ300
  10Zb30010ub30010yb30010pc30010tc30010xc30010_c30010Yd30010ug30010wg30010zg30010_g30010Xh30010Yh3
  0010sh30010wi30010dj30010up30010qq30010rq30010d10010qC0010vD0010eh40010ki40010Xj40010aj40010zj40
  010mE0010qE0010zE0010sF0010cz40010pW50010qW50010lX50010mX50010xX50010nG0010Yd50010hd50010pd50010
  sd50010We50010Xe50010ne50010xe50010ug50010zg50010.g50010ch50010Yi50010eH0010ej50010jk50010tl5001
  0Yo50010_o50010YI0010xI0010qJ0010iK0010nL0010oL0010qL0010rL0010vL0010wL0010zL0010_L0010kM0010nM0
  010pM0010f20010_M0010g20010fN0010gN0010hN0010.N0010_N0010WO0010j20010aO0010bO0010cO0010dO0010eO0
  010gO0010hO0010iO0010jO0010l20010m20010n20010o20010u20022p61000qY10022p61002e8100022r62002s62000
  22r630V2s630W1022v62002w6200022v63002f8300022f72000t40022f72000w40022f72000x40022f72000y40022f72
  000z40022f72000.40022f72000_40022f72000W50022f72000X50022f72000Y50022l720z20pG0022l720z20kK0022q
  72080t40022q72080w40022q72080x40022q72080y40022q72080z40022q72080.40022q72080_40022q72080W50022q
  72080X50022q72080Y50022r72080t40022r72080w40022r72080x40022r72080y40022r72080z40022r72080.40022r
  72080_40022r72080W50022r72080X50022r72080Y50012e8100012f8300012h8101012X920i4012X930q5012X930r50
  12k920y1022w910D0aW50012qA300012qA400012qA500022WB2000pa11022WB2000qa11022WB2000ra11022WB2000pd1
  1022WB2000me11022WB2000a51022WB2000sX21022WB2000uv21022WB2000f91022WB2000V1022WB2000x91022WB2000
  qb31022WB2000ah31022WB2000li31022WB2000mi31022WB2000hC1022WB2000iC1022WB2000Xh41022WB2000Yh41022
  WB2000Zh41022WB2000gz41022WB2000hz41022WB2000iz41022WB2000jz41022WB2000kz41022WB2000lz41022WB200
  0pc51022WB2000rc51022WB2000sc51022WB2000tc51022WB2000sL1022WB2000XM1022WB2000sM1022WB2000W31022X
  B20O0ic30012hB200012iB200022kB20O0nr11022kB20O0or11022kB20O0rw11022kB20O0kY21022kB20O0Yg21022kB2
  0O0fr21022kB20O0ss21012oB20i4012oB20W7110A0110jV0110lV0110mV0110qV0110sV0110tV0110uV0110vV0110.V
  0110_V0110WW10110XW10110YW10110ZW10110gW10110hW10110iW10110jW10110mW10110nW10110oW10110pW10110xW
  10110yW10110_W10110WX10110XX10110YX10110eX10110fX10110gX10110hX10110iX10110jX10110kX10110lX10110
  tX10110uX10110vX10110wX10110xX10110yX10110YY10110dY10110eY10110hY10110iY10110jY10110kY10110nY101
  10tY10110wY10110xY10110yY10110_Y10110WZ10110XZ10110YZ10110ZZ10110aZ10110bZ10110cZ10110dZ10110jZ1
  0110lZ10110aa10110ca10110ma10110Zb10110ab10110cb10110db10110yb10110ec10110xc10110_d10110We10110Y
  e10110Ze10110xe10110ye10110_e10110ff10110gf10110dg10110eg10110gg10110hg10110Zh10110g40110ah10110
  E0110Wk10110bk10110ek10110hk10110kk10110Wl10110Yl10110fl10110vl10110wl10110yl10110_l10110hm10110
  mm10110pm10110qm10110um10110an10110cn10110dn10110en10110fn10110gn10110jn10110kn10110ln10110mn101
  10pn10110rn10110sn10110tn10110un10110xn10110yn10110_n10110Wo10110co10110go10110ho10110io10110jo1
  0110ko10110lo10110mo10110no10110oo10110po10110qo10110uo10110vo10110wo10110xo10110yo10110zo10110.
  o10110_o10110Wp10110Xp10110dp10110kp10110sp10110xp10110Yq10110Zq10110bq10110cq10110Wr10110Yr1011
  0ar10110br10110cr10110gr10110hr10110ir10110mr10110qr10110tr10110wr10110xr10110_r10110as10110tt10
  110q50110lu10110tu10110uu10110vu10110xu10110s50110yu10110.u10110Zv10110av10110u50110v50110pw1011
  0fx10110gx10110ox10110hy10110ky10110ly10110py10110uy10110tz10110vz10110xz10110yz10110zz10110.z10
  110_z10110Y.10110Z.10110a.10110b.10110d60110f.10110h.10110i.10110j.10110k.10110n.10110o.10110r.1
  0110s.10110f60110z.10110..10110Z_10110g60110a_10110b_10110c_10110d_10110e_10110f_10110g_10110h_1
  0110i_10110j_10110n_10110o_10110p_10110q_10110r_10110s_10110t_10110u_10110v_10110w_10110z_10110j
  60110ZW20110aW20110fW20110gW20110k60110lW20110mW20110nW20110l60110m60110zX20110qY20110vY20110YZ2
  0110ZZ20110aZ20110bZ20110t60110jZ20110u60110.Z20110zc20110Wd20110ad20110jd20110kd20110ld20110md2
  0110b70110d70110e70110f70110h70110i70110qg20110xg20110zg20110Zh20110bh20110dh20110eh20110s70110y
  70110z70110nl20110pl20110ql20110sl20110wl20110xl20110Q0110ao20110mo20110_o20110Wp20110Xp20110Yp2
  0110Zp20110cp20110sp20110up20110vp20110dq20110er20110kr20110lr20110mr20110nr20110pr20110rr20110s
  r20110tr20110ur20110vr20110q80110ys20110u80110mt20110xt20110Yu20110Zu20110fu20110gu20110lu20110m
  u20110su20110tu20110uu20110vu20110wu20110xu20110yu20110zu20110.u20110_u20110Wv20110Xv20110Yv2011
  0Zv20110av20110bv20110cv20110dv20110ev20110fv20110gv20110hv20110iv20110jv20110kv20110lv20110mv20
  110nv20110ov20110pv20110qv20110rv20110Ww20110Xw20110Yw20110Zw20110aw20110bw20110cw20110dw20110lw
  20110xw20110zw20110.w20110cx20110ex20110hx20110jx20110kx20110lx20110mx20110px20110rx20110yx20110
  zx20110.x20110_x20110Wy20110Xy20110Yy20110Zy20110ay20110by20110cy20110dy20110ey20110fy20110gy201
  10hy20110iy20110jy20110ky20110ly20110my20110ny20110oy20110py20110qy20110ry20110sy20110ty20110uy2
  0110vy20110wy20110xy20110bz20110cz20110dz20110ez20110lz20110mz20110nz20110oz20110b_20110._20110_
  _20110WW30110XW30110YW30110ZW30110aW30110bW30110cW30110eW30110hW30110iW30110jW30110kW30110lW3011
  0mW30110nW30110oW30110pW30110qW30110rW30110sW30110tW30110uW30110vW30110wW30110xW30110yW30110zW30
  110.W30110_W30110WX30110XX30110YX30110ZX30110aX30110bX30110cX30110dX30110eX30110fX30110gX30110lX
  30110mX30110nX30110oX30110pX30110qX30110sX30110uX30110vX30110wX30110xX30110yX30110zX30110.X30110
  _X30110WY30110XY30110YY30110ZY30110aY30110bY30110cY30110dY30110eY30110fY30110gY30110hY30110iY301
  10jY30110kY30110lY30110mY30110nY30110qY30110wY30110yY30110gZ30110hZ30110kZ30110vZ30110yZ30110zZ3
  0110Xa30110fa30110ha30110ma30110YA0110sa30110ya30110bb30110fb30110gb30110hb30110ib30110jb30110kb
  30110lb30110mb30110ob30110tb30110wb30110xb30110cA0110yb30110zb30110dA0110ec30110ic30110oc30110qc
  30110vc30110yc30110zc30110.c30110Zd30110bd30110gf30110jf30110kf30110of30110rf30110wf30110yf30110
  pA0110Yg30110dg30110qA0110eg30110ig30110rA0110pg30110sg30110vg30110sA0110yg30110.g30110Wh30110fh
  30110gh30110hh30110ih30110uA0110mh30110nh30110oh30110ph30110qh30110wh30110yh30110ci30110di30110e
  i30110xA0110yA0110yi30110Wj30110Xj30110zA0110dj30110.A0110jj30110lj30110pj30110_A0110tj30110xj30
  110Wk30110Xk30110Yk30110Zk30110ak30110bk30110ck30110dk30110ek30110fk30110ik30110jk30110kk30110lk
  30110mk30110nk30110ok30110pk30110YB0110qk30110rk30110sk30110tk30110uk30110vk30110wk30110xk30110y
  k30110zk30110ZB0110.k30110_k30110Wl30110Xl30110Yl30110Zl30110al30110bl30110cl30110dl30110aB0110f
  l30110gl30110hl30110il30110jl30110kl30110ll30110ml30110nl30110bB0110ol30110pl30110ql30110rl30110
  sl30110tl30110ul30110vl30110wl30110xl30110yl30110zl30110.l30110_l30110Wm30110Xm30110Ym30110Zm301
  10am30110bm30110cm30110dm30110em30110fm30110gm30110hm30110im30110jm30110km30110eB0110mm30110nm30
  110om30110pm30110qm30110rm30110sm30110tm30110um30110vm30110fB0110wm30110xm30110ym30110zm30110.m3
  0110_m30110Wn30110Xn30110Yn30110Zn30110gB0110an30110bn30110cn30110dn30110en30110fn30110gn30110jn
  30110hB0110kn30110ln30110.n30110_n30110Xo30110Zo30110ao30110eo30110kB0110lB0110mB0110nB0110rp301
  10.p30110cq30110dq30110qB0110eq30110gq30110kq30110lq30110rB0110oq30110sq30110sB0110_q30110tB0110
  lr30110Ys30110Zs30110wB0110bs30110xB0110rs30110yB0110zB0110yt30110_t30110WC0110Xu30110eu30110fu3
  0110XC0110gu30110hu30110pu30110YC0110tu30110zu30110ZC0110Yv30110Zv30110dv30110ev30110gv30110hv30
  110lv30110mv30110nv30110tv30110cC0110aw30110dC0110dw30110ew30110kw30110eC0110ow30110fC0110ww3011
  0xw30110_w30110Yx30110jx30110rx30110sx30110wx30110xy30110e10110Wz30110az30110dz30110rC0110W_3011
  0a_30110b_30110XX40110dX40110ZY40110oY40110zY40110.Y40110YZ40110g10110iZ40110kZ40110lZ40110zZ401
  10.Z40110_Z40110Wa40110fa40110ga40110ha40110ia40110oa40110pa40110ta40110ua40110fD0110.a40110fb40
  110jb40110mb40110nb40110ob40110pb40110sb40110vb40110xb40110yb40110.b40110_b40110Wc40110Xc40110jD
  0110Yc40110Zc40110ac40110bc40110cc40110dc40110ec40110fc40110gc40110hc40110h10110ic40110jc40110lc
  40110mc40110nc40110qc40110tc40110dd40110nD0110pd40110oD0110qd40110pD0110.d40110be40110qD0110ee40
  110oe40110cf40110ef40110wD0110jg40110mg40110og40110qg40110tg40110.g40110uh40110yh40110Zi40110ii4
  0110Yj40110aj40110nj40110vj40110wj40110yj40110zj40110.j40110_j40110gk40110hE0110k10110jE0110pE01
  10.E0110cw40110fw40110lF0110dx40110oF0110yx40110zx40110.x40110my40110ny40110oy40110Xz40110tz4011
  0uz40110vz40110W.40110c.40110m.40110o.40110d_40110e_40110WW50110cW50110sW50110_W50110wX50110YY50
  110eG0110mY50110nY50110sY50110yY50110XZ50110YZ50110ZZ50110gG0110eZ50110oZ50110pZ50110qZ50110rZ50
  110qa50110wa50110xa50110ya50110za50110Xb50110Yb50110Zb50110bb50110cb50110db50110eb50110fb50110jb
  50110kb50110lb50110mb50110nb50110ob50110oG0110tb50110xb50110hc50110qd50110td50110ud50110vd50110w
  d50110yd50110zd50110.d50110ge50110je50110oe50110qe50110se50110te50110ue50110xe50110Wf50110Zf5011
  0uf50110Wg50110Xg50110ag50110dg50110ng50110YH0110Wh50110Zh50110aH0110th50110uh50110xh50110t10110
  .h50110di50110ei50110gi50110ji50110zi50110.i50110Xj50110aj50110jj50110kj50110mj50110pj50110Zk501
  10ak50110dk50110gk50110qk50110tk50110u10110dl50110el50110hl50110kl50110ol50110wl50110xl50110yl50
  110_l50110uH0110wH0110fo50110Wp50110Yp50110Zp50110ZI0110w10110x10110oI0110pI0110yI0110hJ0110.101
  10iJ0110rJ0110aK0110bK0110jK0110yK0110zK0110a20110b20110c20110d20110dN0110eN0110nN0110oN0110pN01
  10qN0110rN0110sN0110tN0110YP0110ZP0110bP0110fQ0110gQ0110lQ0110mQ0110r20110sQ0110.Q0110YR0110aR01
  10bR0110eR0110fR0110jR0110kR0110mR0110uR0110yR0110zR0110.R0110_R0110ZS0110aS0110gS0110hS0110iS01
  10jS0110tS0110uS0110XT0110YT0110ZT0110aT0110bT0110cT0110dT0110eT0110fT0110gT0110jT0110kT0110oT01
  10pT0110qT0110rT0110vT0110wT0110xT0110yT0110zT0110.T0110_T0110WU0110XU0110YU0110ZU0110bU0110cU01
  10eU0110gU0110hU0110jU0110kU0110mU0110nU0110pU0110qU0110sU0110tU0110vU0110wU0110xU0110bV0112c500
  0112c5200112e5300112h5100112l5300112n5300112o5200112o5300112o5400112o5500112j630z2112j640f7112k6
  200112k630q1122p61000ii50122p61002e8100132p61002g91092w910F122p61010r70122s62002nA200122u630c22i
  730c2122u630w22i730c2122v63002f8300122w62002xA200112.6200122a71030lV0122a71030xW10122a71030xY101
  22a71030jT0122a71030yT0122a71030bU0122a720N0sV0122a720N0_W10122a720N0_Y10122a720N0kT0122a720N0zT
  0122a720N0cU0122Z81100wD0122Z81100tF0122Z81100fH0122Z81100rJ0122Z81102w910D112u8200112u8300112X9
  20i4112X930q5112X930r5122g91092w910F122w910D0fV0122w910D0aW50122w910F2g920f1112fA30e6112fA50n812
  2WB2000Y61122WB2000n61122WB2000rX21122WB2000vp31122WB2000iu31122WB200041122WB2000wc41122WB2000xc
  41122WB2000qc51122WB2000kO1122WB2000dU1122XB20O0va41122YB2000gd31122ZB2000.b31122aB2000Yj31112bB
  200122bB2000eA1122bB2000ze51122cB2000kf21122dB2000cY21132eB1002fB1000dx20132eB1002fB1000ga30122e
  B2000s81122eB2000W91122fB2000W81122gB2000vC1122gB2000zD1122gB2000wF1112jB100112jB200122jB2000_91
  122kB1000pp21122kB20h30tp21112kB20O122kB20O0Xk11122kB20O0rs21122kB20O0ZA1122kB20O0va41122kB20O0u
  e41122kB20O0ve41122lB2000z61122mB20b50iA1122nB2000kV1112oB20W7122oB20W70ge41112pB20Y7122pB20Y70j
  s21112qB200122qB2000Ww31122qB2000dV1122sB2000dk41122tB2000hT1113bp5010X50W51W51W51W51W51W51W51W5
  1W51W51W51W51W51W51W51W51W51W51W51W51W51W51W51W51W51W51W51W51W51W51W51W51W51W51W51W51W51W51W51W5
  1W51W51W51W51W51W51W51W51W51W51W51W51W51W51W51W51W51W51W51W51W51W51W51W51W51W51W51W51W51W51W51W5
  1W51W51W51W51W51W51W51W51W51W51W51W51W51W51W51W51W51W51W51W51W51W51W51W51W51W51W51W51W53W51uO1W5
  1W51W53W51W51W51W51W51W51W51W51W51W51W51W51W51W51W51W51W51W51W51W51W51W51W51W51W51W51W51W51W51W5
  1W51W51W51W51W51W51W51W51W52W51W51W51W51W51W51W51W51W51W51W51W5111W51W51W5120y40.i41_P1vi31ZQ3.P
  1jJ3xP1eO3a12XO2WF1yP1_E1l32YO1qJ1WO1x31mE2z83ZO1lJ1rJ1nJ1oJ1sJ1kJ1mJ5y81f43rM1bQ1sM3cQ1.8Pa11a1
  1c53SAl31a11a11k31k31a31b3411w35g41w93H1H1H1H1H1b91M1Z11Z11Z11Z12aQ1Z11Z11Z11Z11zP1Z11Z11Z11Z11Z
  11Z11YF7ZF1aFG14uc51gP5gP1ni31gP7F1gP1hP1hP2gP2gP1gP1gP1gP2gP1gP1gP1gP1gP1gP1gP1gP1gP1gP1gP6xf11
  hw11gt11tX21rX21wc53rX21wc52rX21hP2rX21hP1rX21hP1rX21vc53rX21iw11tX21xf11xf11tX21ow21tX22wc52tX2
  1tX21tX21tX21mz41rX21rX22rX21rX22oe14wp3Bxf13hP2tX21tX21tX21tX25hP1hP1hP1o62hP2hP2hP3hPh1kC4nz4C
  F1xp3230u51Yt12T1th12T1h11qf1121iQ1Wt11wD2ct15T1t41tV5XT2wD1g512AwD4f51Yu1221i11qQ1g11cC161nt11h
  51313131313131313131313131313131sL12121212121dj1121ej11hk11hk11oo112121pC1612161216161212121y21_
  p11K1Wc11Wc11b11c1411ve15re11i53wf2191iK1iK1iK1bt11M1T1qf21T1T1fj11T1T1T1T1T1T1zN1zN1zN1zN1zN1zN
  1f822Bg82s91j41D1D1a54611Bej3a1dc11do21_k11ip11hp11tp33hp11tp31md51hp13hp12hp12hp11om53hp11ml11i
  p11wd11wd11ip11fz21ip12tp32ip11ip11ip11ip12tY21hp12hp11hp12oe14cv32Wv31si38wd15ip11ip11ip11ip18i
  p13iw2Gjw21kw23a_26sw21tw22uw21sw21uw21uw27uw21uw21uw22uw21vw21uw21uw21uw21uw21cH1uw23v.46uw21uw
  21sw21uw21uw21sw22hg423158qo14cKGcKCcKBhb1123p1001mX2101yY21mk12lX24iX22lK1jm36jX2Qux14hZ24nZ2Hu
  Qe1tx11_x1AjZ21kZ21tv11tv12iZ21Xq11Xq11Xq11lZ21kX21wd11wd11wd11wd11wd11wd1T0FHX1Xd52fh42Xd5MXd51
  gh46uX2Dfh41gh41gh41fh41pi31pi3Tdr21wr2v1H6hh41ih41211Dyl31213Dmn3e5Jh5J121U1cx22va33_w24qw23pl2
  6sw2Uxb34cc3a2_b31Xc31vj21vj22zb31mZ21mZ21mZ21Zc31tw21lu11lu11lu11lu11lu11lu1i1Ny1kw4Kkw41kw4w2N
  6lw4121N1dx22wa33Wx24uw29vw2Uyb34ec3a2Wc31Yc31wj21wj22.b31oZ21oZ21oZ21ac31ww21mu11mu11mu11mu11mu
  11mu1128n20mv21pe3101jf32rk21oe31se33le31tk42mv21px12Zf32ye31me31xe31nv22af31bf31Wf31ok41xk42.e3
  3cf31ue31df31Xf31Yf31ef31te31ve32rk23qe31pk43we31lf31ze33mf31_e3Ppx11px11ff33yk4Anv21px11px11ov2
  1ov21uk41vk45rk45qk41wk43ox11ox11ox11ox11ox11re31sk41jk11jk11jk11jk12kf31jk11jk11jk11jk11ne31jk1
  1jk11jk11jk11jk11jk11gf37hf31if3K0F9h59129800203kk28gj4Skk2z30FBh5B12155lk28hj4Slk2i49h5912155ik
  28ej4Sik2i4Dh5D12235jk28fj4Sjk212D50_t220a50FGh5G1212r59h5912110_i4121200Dgg41213Dhg4e5Hh5H1221D
  dl31213Dko3e5Lh5L1221Dmo31213Dgl3e5Jh5J1221Dqk31213Dcj3e5Nh5N1221Ddp31213Dep3e5Ph5P1221Dip31213D
  mg4e5Uh5U1213Dgp3e5Rh5R1231Dog4121Z11sh12ai13rh14oh11hi1203zh13ph14.h12yh17_h1GYe11ci11ce13lh1a2
  x21x21x21x22bi11x21x21x21x21qh11x21x21x21x21x21x2i1ad5d3Wg2a201wt31223D0e5tPh501211r5wP1211r5mO1
  211r5.P1211r5_P1211r5tQ32Z1v31co12w11d52w120101jZ11ao11hq12pn15w12q4701uB10A04sB1Xo11xl3102nZ120
  101bo11vB1010101010101010101010101010101uo110101010101dL101eL1kZ11kZ11t110101S101010101010101010
  1q41Ym11r11n41n4DxB3nn15jo12w11fo11w11w11fL1w11w11w11w11w11w11lI1lI1lI1lI1lI1lI1jL20BiL2uK80Ccp3
  a1sf11td24rg41lh43rg4Afm56kh11kh12az23rg41pw4Gpc42Xd41xv38kh1Z1lc34iq31si41si41si41si41si4OqF4lc
  5Kqw41oh41221r5lR1211r5bS1211r5oS1211r5pS1211r5qS1211r5xS1211r5yS1211r5zS1211r5.S12H1r5tP1211r5w
  P1211r5Yz41211r5.P1211r5_P1211r5tQ32G4k1nl3a5xX2Vmh4t3nh41221r5lR1211r5bS1211r5oS1211r5pS1211r5q
  S1211r5xS1211r5yS1211r5zS1211r5.S32Q1k1aj33211k1on33211k1rn33211k1tn33211k1ho332F1k1jo33221k1wo3
  3217Cyo3Y1sl3c8sx41sx41sx41sx41sx444b2.31Zt12u5122u51l61eP2Xt11l8161rZ11K5u5101K5x31610CnM5f42ik
  11j61mt11k61yC2zs1H062221K1K1c5EK2g21g21a31b35w35g44H1H1H1H1H1mn12u51u51u51u51jM1u51u51u51u51u51
  u51u51u51u51u51u51u510D0201010101026Eni3a1jf11bn21fp12rX21mg53rX21mg5101rX23rX22rX22rX21vc53rX21
  bp22jf11jf15mg57rX21rX22rX21rX26wp320108jf1J0G01030601020101010701010201010101010203nz4601010101
  0102.c45ai41bi44412DpZ1vAvw44411DqZ143e2Z21ZT327_S3K606ps1Jqs18dTN2221tV1tV4ir1BKArs15n14yz12919
  191aT3T3gY17T1T1T1T1T1T10D02010101010Gbo3k10Shp1Awp3U0G01030601020101010701010201010101010203nz4
  60101010101043178qf14wDGwDCwDBcC_1_f2n4ov34312o3b_2n4pv3327x21nX22nK3nK4bx11hX2102nY25nK2o57Wo11
  fDFdD1mb2103lx14fX21gDGsL6_B2WC1nv11nv1Eo51e.11z11n51n57._15l_11iD3uX22vm11vm11vm11vX22nK1pY21nK
  1nK1XC1nK1Xj11Xj11Xj11fx11nK1xd11xd11xd11xd11xd11xd11f8Dg82s9Kto3a1_g11ev14nu3103nu3Alg51kh45yf1
  1yf12_y23nu3105Xi51Zd2Acv32ou31si38yf1Qp81g91kh41kh41ti35jw24nd41010101010OtD4v.4Da870104322o3g_
  2n4gw34312o3h_2n4hw34312o3j_2n4jw34312o3m_2n4yw34312o3yz1n4Wv33262o6it1a1Zd53271p9lf4322x11Yt12T
  3T4iQ1Wt13ct15T2y28g5Ff51Yu14qQ4nt11h5Phk11hk1Ey21_p11K1g21g27ve15re11i53cx12iK1iK1iK1bt12T1ex11
  T1T2T1lL1lL1lL1Xe11T1zN1zN1zN1zN1zN1zNa1ej3a1dc11do24tp34tp3Aom56wd11wd12fz23tp3601tY2Lwd1a2cH43
  4n11nI2E3E4_D1d82wD6E2K5m1Jh71wD1wL2XE4oEH09K1K1t13pCDg21g27l1995iB2E1E1E1E2E1E1E1E1E1E1E1E1E1E1
  E1Eg2mk13mg54mg5Gdc11dc15mg5J0108dc143178tJ4lS1lSFlSClS6lSl2e_13231p9bf43211p9lf43211p9tf43211p9
  _f4435b11yq12b53b52nb12xq11u216166b58610C65n2163gr12wR2hr1a2b51b51b51b5101b51b51b51b51b51b51b51b
  51b51b51b51b5x2fm5Tyv3p2YW54312X8wp3p2nz44378C616E610C6665wRg2044M68nY150Ryo1r20f70104412D6R0434
  X11qz12fC3fC2qo12mz12cK106fC801cKCcK603y.12hb12lz1a2fC1fC1fC1fC1gY11fC1fC1fC1fC1fC1fC1fC1fC1fC1f
  C1fC1fCx2lg543C4D0X10p6yv3p2YW54432X8yv3p2YW54465e10601ik14yCi364342X8yv3p2YW54471e1bp1441T1we22
  kP3kP2gt12ie29kPC2909_j22xn12ce2SXQe1kP1kP1kP1kP2kP1kP1kP1kP1kP1kP1kP1kP1kP1kP1kP1kPx2lo54412X8y
  v3p2YW54453D0I2Kxn143D5Csi11si1E0D06si143E5D0Hno11br19060432U1Xv12w73w72jr12nu12wD106w7Lmr16cK3u
  v12kV2xu1a2w71w71w71w72w71w71w71w71w71w71w71w71w71w71w71w7x2fn543858et146G6C6r204312X8wp3p2nz443
  54D0RlSv6yv3p2YW543I5D0E016I05hb143748ro14cK1cKX1cK43638cj140Y164311e1g_14381e104343k10p6Zb4p2yb
  544GS1_e22mP3mP2tc12qe2207mPL09Zk22zY12ne2a2mP1mP1mP1mP2mP1mP1mP1mP1mP1mP1mP1mP1mP1mP1mP1mPx2sn5
  4412X8yv3p2YW544F3C0J0KzY14383D0q7rc4p2nc543DU1.e22lP3lP2jt12le29lP90C09Xk22yn12te2SqPe1lP1lP1lP
  1lP2lP1lP1lP1lP1lP1lP1lP1lP1lP1lP1lP1lP62r2wm54312X8wp3p2nz443C4S0C0Byn1y2243R58tJ40G0ClSr204315
  Uno11br190v6wp3p2nz443IS1Wf22nP3nP2kt12re2207nP90Lek22zn12ve2a2nP1nP1nP1nP2nP1nP1nP1nP1nP1nP1nP1
  nP1nP1nP1nP1nPx2Yn543D3e10v6yv3p2YW5434T1Xf22oP3oP2lt12se29oPC2909fk22.n12ye2SYQe1oP1oP1oP1oP2oP
  1oP1oP1oP1oP1oP1oP1oP1oP1oP1oP1oPx2ln54332X8wp3p2nz443G1e1043K3C0G0Nzn14313e10665kV4352X8wp3p2nz
  44323V2F05.n143138l.1N0KcC32Z2p21gx23vT7kw2102iZ36xS6wg4Jfg4107zw2HsL6rT2sT1Zj21Zj2FnW34a31b35.x
  35un34W_22xX21xX21xX21a.23b.23tT7ou11ou11ou11ou11ou11ou11eUDcU2wS1zS1j21j21vRGWp3b1rf25m_44mm5M0
  6mW2Aza42cj41si3Ru_2Gt_21jZ33Xc310101010101pZ31qZ32rZ31pZ31rZ31rZ37rZ31rZ31rZ32rZ31sZ31rZ31rZ31r
  Z31rZ32rZ33vb56rZ31rZ31pZ31rZ31rZ31pZ3901043218m.143118o.143F1e1043218s.143118t.143118u.143118tJ
  43118v.143118w.143118n.143118r.132X2Z21py22G3G4kI1pw23mZ35G2q4701uBFsB1eg44qI4gk21vBG09hj21hj2Eq
  41Ym11r11n41n4DxB3aX35lW32G1of21G1G2G1G1G1G1G1G1yu11yu11yu11yu11yu11yu1a1ej3a1sf11uY24jo54jo5Afm
  5105sf11sf12az23jo56le5D0108sf1Q0101010109ti47_v33Xe4JqFHhg4321W31nx22I3I1l63oM1ee23aZ35I2l35pb2
  3z8Fy81ls23j61WN1k63Xw21.8P_i21_i21c5Dl31tX31a11k31k31a31b35zp25Wm21w93vf21H1Zv11Zv11Zv11h.22I1x
  z21I1I2I1I1I1I1I1I1qu11qu11qu11qu11qu11qu1a1ho3a1xf11st11gt11tX21rX21wc53rX21wc52rX23rX22rX22rX2
  1vc53rX21iw11tX21xf11xf11tX21ow21tX22wc52tX21tX21tX21tX2101ey11rX22rX21rX2Hxf15tX21tX21tX21tX28t
  X2Nos37tw23sw2JkCH.c432y1t11by22tm13tm14kx21lw23hZ35tm190Hcg44ic34zx2H09Yj21Yj2Pyx35Yp34ZX32aY21
  aY21aY21f_22tm11i.21tm11tm12tm11tm11tm11tm11tm11tm11su11su11su11su11su11su1a1wo3f1op34op3B05cj11
  cj15op37wl2C0108cj1Q0101010109.v3k1hg4323l11dy22nS3nS4he21ow23pn15nSQXo14.j24gw2QkZ11kZ1Pve15re1
  4nn12iK1iK1iK1z_22nS1W.21nS1nS2nS1nS1nS1nS1nS1nS1uu11uu11uu11uu11uu11uu1f2bY24xu34xu3G_f11_f15xu
  3601tY2L_f1d1.v37tw23sw232b2u11cy22F3F4nE1gX23dZ35F90Hlb24pE4ew2H09Wj21Wj2PWb25ka24pX22zp11zp11z
  p11y_22F1zz21F1F2F1F1F1F1F1F1tu11tu11tu11tu11tu11tu1f2xy14gm54gm5B05_g11_g15gm5601Zr1C0108_g1Q01
  01010109ct3k1hg4324w11fy22L3L4cP1mw23kZ35L2ZC8sOFrO1dg44iR4Xx21tOPdj21dj2EZC1hY31m31YC1YC7zx35to
  31zO3mW32ZY21ZY21ZY21ZW32L1d.21L1L2L1L1L1L1L1L1vu11vu11vu11vu11vu11vu1a1yo3a1th11.d24tn54tn5Asn5
  6th11th12sz23tn57Zh2Lth1a2xE326P1hx2AgX23eZ3Vlb2Y1ej21ej2PWb25ka24pX22zp11zp11zp11c.2Dpu11pu11pu
  11pu11pu11pu1f2ks1a101Zr1y1ct37tw23sw2325i11wy22E3E4_D1fe23gZ35EQvW24XE4Yz2QXj21Xj2Pz_15k_14Z.12
  um11um11um11YX32E1w.21E1E2E1E1E1E1E1E1Wv11Wv11Wv11Wv11Wv11Wv1f2am24mg54mg5Gdc11dc15mg57.c2Ldc1d1
  ct3321n11ry22J3J4pM1ge23lZ35J2rB8zMFqM5XN4ey21.MPsj21sj2ErB1nY31W31hB1hBDeN8oW32J1o.21J1J2J1J1J1
  J1J1J1zu11zu11zu11zu11zu11zu1e2gj11sh24uo54uo5AYn56gj11gj12pz23uo5Sgj1a2vI321n11sy22O3O4kQ4oZ35O
  2eC8YPF_O5sQ4iy21ZPPtj21tj2EeC1oY31t31aC1aCDaP8pW32O1s.21O1O2O1O1O1O1O1O1.u11.u11.u11.u11.u11.u1
  a1.o3a1hj11mi24wo54wo5Afn56hj11hj12qz23wo5Shj1a2oJ329n11tx22P3P4_Q4nZ35P2cD8fRFZR5hR4bw21gRPpj21
  pj21XQDcD1lY31m41WD1WDDnR8X_22P1yz21P1P2P1P1P1P1P1P1ru11ru11ru11ru11ru11ru1e2qg11ov14mo54mo5Alo5
  6qg11qg12tz23mo5Sqg1a2lG325n11gy22N3N4jQ4pZ35N2zC8oQFmQ5rQ4jx21pQPrj21rj21qPDzC1mY31h41sC1sCDwQ8
  gW32N1f.21N1N2N1N1N1N1N1N1wu11wu11wu11wu11wu11wu1e2lh11yW24so54so5Awm56lh11lh12kz23so5Slh1a2WI32
  5n11ty22Q3Q4WR4qZ35Q2bD8dRFaR5jR4ny21eRPuj21uj21YQDbD1qY31l41XD1XDDmR8qW32Q1t.21Q1Q2Q1Q1Q1Q1Q1Q1
  _u11_u11_u11_u11_u11_u1e2jj11sj24xo54xo5Aln56jj11jj12rz23xo5Sjj1a2gK53n1W31hK2G1ya32G201.71kI2_4
  1_41r15G2r16_42uB1.7A_44sB2_41.72qI201_41uJ1vB1010101010101010101010101010102_41_41.71_41_41.71_
  41.71r11r12_41_42_41.71_41.71_41_41.71_41.71q41r11r11n41n4DxB8iJ2G1G1G1G2G1G1G1G1G1G1G1G1G1G1G1G
  3.7L_4m1sf11et11_k13jo54jo5Gsf11sf12az23jo5Ssf1a2qF541W31.N2I1oa32I1l63oM1l83a15I2a15x33z8B04y81
  f4102j61WN1k63vN1.8Pa11a11c5Dl31a11a11k31k31a31b35w35g41w93H1H1H1H1H1b92I1I1I1I2I1I1I1I1I1I1I1I1
  I1I1I1IM_4Eni3a1xf11kt11gt11tX21rX21wc53rX21wc52rX23rX22rX22rX21vc53rX21iw11tX21xf11xf11tX21ow21
  tX22wc52tX21tX21tX21tX22rX21rX22rX21rX2Hxf15tX21tX21tX21tX28tX2q1kCH.c4541q11dS2P1Zb32P4_Q301m45
  P2m48fR2.7DZR5hR4oR1gRPm41m41XQDcD1m41m41WD1WDDnR8tR2P1P1P1P2P1P1P1P1P1P1P1P1P1P1P1Pe2qg11fw14mo
  54mo5Alo56qg11qg12tz23mo5Sqg1a2lG533r11mI2F1pa32F4nE301z15F2z1601_41fDFdD203pE4yE1gDPz11z1Eo51z1
  1z11n51n5DiD8.E2F1F1F1F2F1F1F1F1F1F1F1F1F1F1F1Fe2_g11rx14gm54gm5Alg56_g11_g12_y23gm5S_g1a2tD543p
  11dP2L1xa32L4cP20101m35L2m38sOFrO5iR4.O1tOPm31m3EZC1m31m31YC1YCDzO8WP2L1L1L1L2L1L1L1L1L1L1L1L1L1
  L1L1Le2th11ye24tn54tn5Asn56th11th12sz23tn5Sth1a2xE532r11qR2N1tb32N4jQ4h45N2h4701oQB04mQ5rQ4XR1pQ
  Ph41h41qPDzC1h41h41sC1sCDwQ8bR2N1N1N1N2N1N1N1N1N1N1N1N1N1N1N1N6.7Y2lh11oX24so54so5Awm56lh11lh12k
  z23so5Slh1a2WI531t11fS2Q1wb32Q4WR1d8102l45Q2l48dR2.7DaR1h74jR4pR1eRPl41l41YQDbD1l41l41XD1XDDmR8u
  R2Q1Q1Q1Q2Q1Q1Q1Q1Q1Q1Q1Q1Q1Q1Q1Q60Y2jj11ik24xo54xo5Aln56jj11jj12rz23xo5Sjj1a2gK534p11_N2J1ub32J
  4pM202W35J2W3701zMFqM5XN4rN1.MPW31W3ErB1W31W31hB1hBDeN8sN2J1J1J1J2J1J1J1J1J1J1J1J1J1J1J1Je2gj11e
  j24uo54uo5AYn56gj11gj12pz23uo5Sgj1a2vI531p11rR2O1vb32O4kQ4t35O2t38YPB04_O2_43sQ4YR1ZPPt31t3EeC1t
  31t31aC1aCDaP8WQ2O1O1O1O2O1O1O1O1O1O1O1O1O1O1O1Oe2hj11ij24wo54wo5Afn56hj11hj12qz23wo5Shj1a2oJ53N
  j14nb3401.7L.7H.7401_43010101010101010101010101010102_41_41.71_41_41.71_41.74_41_42_41.71_41.71_
  41_41.71_41.7l1.7L_4n1xm21_k123g5i31nA20301w21nb1201i716161p750225t5161010B6401s5162010101wR2jB1
  0G09bU1bU123aj1A01D1016161u11v15r55q5103b6101W11W11W11W110101kB10102010101010101D1D1D1D1D1Da1sh4
  a10101010101030102030202010301010101010101020201010102qw2102010204nd52010805010101080q104.z4D024
  158nY1W10605yCi3624148gt150I2Kxn123368et150E016I05hb123158qf14wDGwDCwDBcC2355Csi110E0DlS6si112Cz
  1402pz11k.1201me28WF1nz11_E1ZC6030H01rM1Yk21sM20J01010101010101040101S101010101010101010X1x.15oz
  17YF205ZF1aFD020BrPBhP1hPQhf2BhP3hP2hPj1hPAhP1hP1hP1o62hP2hP2hP3hPy1su31212i5ZRc1vf2233H8ro14cKS
  06cK7fPNhw22iw2i1bP3jw2DjLDiL2uKKWz4q2_n5k1lc34qp3X1kc51226AcPc1Ye11bk21ce1g7Wg2b2zb4232c21qV3yZ
  37eS2cK1bT6xS6XUJWU107fVNYw22Zw21ij21ij2Fj24c31d35yT5wT4rV2o71o71o71o73eV3aw27j21j21j21j21j21j21
  eUDcU2wS1zS1j21j21vRGox4k1mm5SnZ3Aci5Uu_2Gs.21pY33_Z36pZ31qZ32rZ31pZ31rZ31rZ37rZ31rZ31rZ32rZ31sZ
  31rZ31rZ31rZ31rZ32rZ33Wc56rZ31rZ31pZ31rZ31rZ31pZ31222i5rPc1hf2121U6ze21xi2Bsi21oe21mi2Shi21ck21v
  i2i2zj25pe27oj27jj21kj2QjZ4BgY41gY4Qgh2BgY43gY42gY4j1gY4AgY41gY41gY41og22gY42gY42gY43gY4y1kc4121
  2i5mY4c1fh224C48tc140J0KzY123C58jt1K0C0Byn1y2223B48tJ40Y105cC23138kt1W16Bzn123148cj1W10665kV2314
  8lt1N2F05.n12341e1012k3Y21ue2307d83z1606m1Jh78hk2N0201z11z1Fz1Al15n14zf22919191.f23ak2307nK1nK1n
  K1nK1nK1nK10D02010101010Gbo3k10Shp1Awp3U0G01030601020101010701010201010101010203nz46010101010101
  212o6ev1a1Xi5540j30x11f12f11f11f11f11f12f11f11ut11x11x11f12f12f11f11f11f11f11f11f11f11x11x12f11f
  12f11f11f11f11f11f11f11f12f13f11x12eb31f11f11f12x11f11f1Hx11x11f11x11x11f11x11f11f11f11f11x11x11
  f11x11f11x11f11x11x11f11x11f11x11f11f11x11x11x11x1411x15x11x13f11f11f11f11f11f11x11f11f11f11f12f
  11f11f11f11f11f11f11f11f11f11f11f11f12f15f11f1Dx12x111Or65411l1fb35411l1f1541i30v21s12s11j31s11s
  11s11dY11j31s11v21j11v21s12s12s11s11s11s11s11s11s11s11v21v22s11j32s11s11s11s11s11s11s11s12s13s11
  v22j31s11s11s12j11s11s1Hj11j11j31j11j11j31j11j31s11s11s11j11j11s11j11j31j11j31j11j11j31j11j31v21
  s11s11v21v21v21v25v25v21v23s11s11s11s11s11s11v21s11s11s11s12s11s11s11s11s11s11s11s11s11s11s11s11
  s12j35s11s1Dnb22j1P0125q11ZT2T3T4iQ1_S3K5T2y28g5Ff51sZ14qQ4dT1h5PK1KEy21K1K1g21g2Di53io15aT2T1mo
  11T1T2T1lL1lL1lL1Xe11T1T1T1T1T1T1Te2dc11do24tp34tp3Aom56wd11wd12fz23tp360Mwd1a2cH1214Srr2f6r_4Z2
  r_41r_41211Sib41214SvW4f6nw4Z2nw41nw41214S__3f6nx4Z2nx41nx41231Sbq21211SyW41211SXq21211SXW412EY2
  1ln12w13w14jZ12wt12r15w12q4701uBFsB2.l23nZ14kn11vBGuQ9r11r1Eq41r11r11n41n4DxB395on12w11w11w11w12
  w11w11w11w11w11w11w11w11w11w11w11w1e2sf11xX24rg41lh43rg4Afm5105kh11kh12az23rg41mh450DXd49kh1Q010
  101010c1qFHhg47nh41oh454Bh30vD1y32y31Y61y31y31y3101Y61y31vD1l21vD1y32y32y31y31y31y31y31y31y31y31
  vD1vD2y31Y62y31y31y31y31y31y31y31y32y33y31vD2Y61y31y31y32l21y31y3Hl21l21Y61l21l21Y61l21Y61y31y31
  y31l21l21y31l21Y61l21Y61l21l21Y61l21Y61vD1y31y31vD1vD1vD1vD5vD5vD1vD3y31y31y31y31y31y31vD1y31y31
  y31y32y31y31y31y31y31y31y31y31y31y31y31y31y32Y65y31y3Dl22l2541g30r71z42z41z41z41z41z42z41z41r71r
  71r71z42z42z41z41z41z41z41z41z41z41r71r72z41z42z41z41z41z41z41z41z41z42z43z41r72z41z41z41z42r71z
  41z4Hr71r71z41r71r71z41r71z41z41z41z41r71r71z41r71z41r71z41r71r71z41r71z41r71z41z41r71r71r71r75r
  75r71r73z41z41z41z41z41z41r71z41z41z41z42z41z41z41z41z41z41z41z41z41z41z41z41z42z45z41z4Dr72r712
  31o6aY2542g30s71.42.41.41.41.41.42.41.41s71s71s71.42.42.41.41.41.41.41.41.41.41s71s72.41.42.41.4
  1.41.41.41.41.41.42.43.41s72.41.41.41.42s71.41.4Hs71s71.41s71s71.41s71.41.41.41.41s71s71.41s71.4
  1s71.41s71s71.41s71.41s71.41.41s71s71s71s75s75s71s73.41.41.41.41.41.41s71.41.41.41.42.41.41.41.4
  1.41.41.41.41.41.41.41.41.42.45.41.4Ds72s7541g30jN1m62m61ZE1m61m61m62ZE1m61jN1.61jN1m62m62m61m61
  m61m61m61m61m61m61jN1jN2m61ZE2m61m61m61m61m61m61m61m62m63m61jN2ZE1m61m61m62.61m61m6H.61.61ZE1.61
  .61ZE1.61ZE1m61m61m61.61.61m61.61ZE1.61ZE1.61.61ZE1.61ZE1jN1m61m61jN1jN1jN1jN5jN5jN1jN3m61m61m61
  m61m61m61jN1m61m61m61m62m61m61m61m61m61m61m61m61m61m61m61m61m62ZE5m61m6Dqb22.6541g30y61w42w41w41
  w41w41w42w41w41y61y61y61w42w42w41w41w41w41w41w41w41w41y61y62w41w42w41w41w41w41w41w41w41w42w43w41
  y62w41w41w41w42y61w41w4Hy61y61w41y61y61w41y61w41w41w41w41y61y61w41y61w41y61w41y61y61w41y61w41y61
  w41w41y61y61y61y65y65y61y63w41w41w41w41w41w41y61w41w41w41w42w41w41w41w41w41w41w41w41w41w41w41w41
  w42w45w41w4Dy62y6541g30z61x42x41x41x41x41x42x41x41z61z61z61x42x42x41x41x41x41x41x41x41x41z61z62x
  41x42x41x41x41x41x41x41x41x42x43x41z62x41x41x41x42z61x41x4Hz61z61x41z61z61x41z61x41x41x41x41z61z
  61x41z61x41z61x41z61z61x41z61x41z61x41x41z61z61z61z65z65z61z63x41x41x41x41x41x41z61x41x41x41x42x
  41x41x41x41x41x41x41x41x41x41x41x41x42x45x41x4Dz62z6541g30kN1n62n61aE1n61n61n62aE1n61kN1_61kN1n6
  2n62n61n61n61n61n61n61n61n61kN1kN2n61aE2n61n61n61n61n61n61n61n62n63n61kN2aE1n61n61n62_61n61n6H_6
  1_61aE1_61_61aE1_61aE1n61n61n61_61_61n61_61aE1_61aE1_61_61aE1_61aE1kN1n61n61kN1kN1kN1kN5kN5kN1kN
  3n61n61n61n61n61n61kN1n61n61n61n62n61n61n61n61n61n61n61n61n61n61n61n61n62aE5n61n6Dub22_6541g30lN
  1o62o61bE1o61o61o62bE1o61lN1W71lN1o62o62o61o61o61o61o61o61o61o61lN1lN2o61bE2o61o61o61o61o61o61o6
  1o62o63o61lN2bE1o61o61o62W71o61o6HW71W71bE1W71W71bE1W71bE1o61o61o61W71W71o61W71bE1W71bE1W71W71bE
  1W71bE1lN1o61o61lN1lN1lN1lN5lN5lN1lN3o61o61o61o61o61o61lN1o61o61o61o62o61o61o61o61o61o61o61o61o6
  1o61o61o61o62bE5o61o6Dvb22W7541g30iO1u62u61hE1u61u61u62hE1u61iO1Y71iO1u62u62u61u61u61u61u61u61u6
  1u61iO1iO2u61hE2u61u61u61u61u61u61u61u62u63u61iO2hE1u61u61u62Y71u61u6HY71Y71hE1Y71Y71hE1Y71hE1u6
  1u61u61Y71Y71u61Y71hE1Y71hE1Y71Y71hE1Y71hE1iO1u61u61iO1iO1iO1iO5iO5iO1iO3u61u61u61u61u61u61iO1u6
  1u61u61u62u61u61u61u61u61u61u61u61u61u61u61u61u62hE5u61u6Dzb22Y7541g30mN1p62p61cE1p61p61p62cE1p6
  1mN1c61mN1p62p62p61p61p61p61p61p61p61p61mN1mN2p61cE2p61p61p61p61p61p61p61p62p63p61mN2cE1p61p61p6
  2c61p61p6Hc61c61cE1c61c61cE1c61cE1p61p61p61c61c61p61c61cE1c61cE1c61c61cE1c61cE1mN1p61p61mN1mN1mN
  1mN5mN5mN1mN3p61p61p61p61p61p61mN1p61p61p61p62p61p61p61p61p61p61p61p61p61p61p61p61p62cE5p61p6D.b
  22c612D1S0542g30nN1q62q61dE1q61q61q62dE1q61nN1X71nN1q62q62q61q61q61q61q61q61q61q61nN1nN2q61dE2q6
  1q61q61q61q61q61q61q62q63q61nN2dE1q61q61q62X71q61q6HX71X71dE1X71X71dE1X71dE1q61q61q61X71X71q61X7
  1dE1X71dE1X71X71dE1X71dE1nN1q61q61nN1nN1nN1nN5nN5nN1nN3q61q61q61q61q61q61nN1q61q61q61q62q61q61q6
  1q61q61q61q61q61q61q61q61q61q62dE5q61q6D_b22X7541g30jO1v62v61iE1v61v61v62iE1v61jO1Z71jO1v62v62v6
  1v61v61v61v61v61v61v61jO1jO2v61iE2v61v61v61v61v61v61v61v62v63v61jO2iE1v61v61v62Z71v61v6HZ71Z71iE
  1Z71Z71iE1Z71iE1v61v61v61Z71Z71v61Z71iE1Z71iE1Z71Z71iE1Z71iE1jO1v61v61jO1jO1jO1jO5jO5jO1jO3v61v6
  1v61v61v61v61jO1v61v61v61v62v61v61v61v61v61v61v61v61v61v61v61v61v62iE5v61v6DWc22Z7541g30kO1w62w6
  1jE1w61w61w62jE1w61kO1a71kO1w62w62w61w61w61w61w61w61w61w61kO1kO2w61jE2w61w61w61w61w61w61w61w62w6
  3w61kO2jE1w61w61w62a71w61w6Ha71a71jE1a71a71jE1a71jE1w61w61w61a71a71w61a71jE1a71jE1a71a71jE1a71jE
  1kO1w61w61kO1kO1kO1kO5kO5kO1kO3w61w61w61w61w61w61kO1w61w61w61w62w61w61w61w61w61w61w61w61w61w61w6
  1w61w62jE5w61w6DXc22a7541g30oN1r62r61eE1r61r61r62eE1r61oN1d61oN1r62r62r61r61r61r61r61r61r61r61oN
  1oN2r61eE2r61r61r61r61r61r61r61r62r63r61oN2eE1r61r61r62d61r61r6Hd61d61eE1d61d61eE1d61eE1r61r61r6
  1d61d61r61d61eE1d61eE1d61d61eE1d61eE1oN1r61r61oN1oN1oN1oN5oN5oN1oN3r61r61r61r61r61r61oN1r61r61r6
  1r62r61r61r61r61r61r61r61r61r61r61r61r61r62eE5r61r6DYc22d6541g30pN1s62s61fE1s61s61s62fE1s61pN1e6
  1pN1s62s62s61s61s61s61s61s61s61s61pN1pN2s61fE2s61s61s61s61s61s61s61s62s63s61pN2fE1s61s61s62e61s6
  1s6He61e61fE1e61e61fE1e61fE1s61s61s61e61e61s61e61fE1e61fE1e61e61fE1e61fE1pN1s61s61pN1pN1pN1pN5pN
  5pN1pN3s61s61s61s61s61s61pN1s61s61s61s62s61s61s61s61s61s61s61s61s61s61s61s61s62fE5s61s6DZc22e654
  1g30lO1x62x61kE1x61x61x62kE1x61lO1b71lO1x62x62x61x61x61x61x61x61x61x61lO1lO2x61kE2x61x61x61x61x6
  1x61x61x62x63x61lO2kE1x61x61x62b71x61x6Hb71b71kE1b71b71kE1b71kE1x61x61x61b71b71x61b71kE1b71kE1b7
  1b71kE1b71kE1lO1x61x61lO1lO1lO1lO5lO5lO1lO3x61x61x61x61x61x61lO1x61x61x61x62x61x61x61x61x61x61x6
  1x61x61x61x61x61x62kE5x61x6Dac22b7541g30qN1t62t61gE1t61t61t62gE1t61qN1f61qN1t62t62t61t61t61t61t6
  1t61t61t61qN1qN2t61gE2t61t61t61t61t61t61t61t62t63t61qN2gE1t61t61t62f61t61t6Hf61f61gE1f61f61gE1f6
  1gE1t61t61t61f61f61t61f61gE1f61gE1f61f61gE1f61gE1qN1t61t61qN1qN1qN1qN5qN5qN1qN3t61t61t61t61t61t6
  1qN1t61t61t61t62t61t61t61t61t61t61t61t61t61t61t61t61t62gE5t61t6Dbc22f654UT4s1401s13v2Is1Hs15v2Jv
  21v21s11v21v21s11v21s14v21v22v21s11v21s11v21v21s11v21s1l1s1Jlo32v2541g30X51r42r41r41r41r41r42r41
  r41X51X51X51r42r42r41r41r41r41r41r41r41r41X51X52r41r42r41r41r41r41r41r41r41r42r43r41X52r41r41r41
  r42X51r41r4HX51X51r41X51X51r41X51r41r41r41r41X51X51r41X51r41X51r41X51X51r41X51r41X51r41r41X51X51
  X51X55X55X51X53r41r41r41r41r41r41X51r41r41r41r42r41r41r41r41r41r41r41r41r41r41r41r41r42r45r41r4D
  X52X5541g30b21U2U1U1U1U1U2U1U1b21b21b21U2U2U1U1U1U1U1U1U1U1b21b22U1U2U1U1U1U1U1U1U1U2U3U1b22U1U1
  U1U2b21U1UHb21b21U1b21b21U1b21U1U1U1U1b21b21U1b21U1b21U1b21b21U1b21U1b21U1U1b21b21b21b25b25b21b2
  3U1U1U1U1U1U1b21U1U1U1U2U1U1U1U1U1U1U1U1U1U1U1U1U2U5U1UDb22b25411_4oo3541g30_51z22z21z21z21z21z2
  2z21z21_51_51_51z22z22z21z21z21z21z21z21z21z21_51_52z21z22z21z21z21z21z21z21z21z22z23z21_52z21z2
  1z21z22_51z21z2H_51_51z21_51_51z21_51z21z21z21z21_51_51z21_51z21_51z21_51_51z21_51z21_51z21z21_5
  1_51_51_55_55_51_53z21z21z21z21z21z21_51z21z21z21z22z21z21z21z21z21z21z21z21z21z21z21z21z22z25z2
  1z2D_52_5541g30Y51s42s41s41s41s41s42s41s41Y51Y51Y51s42s42s41s41s41s41s41s41s41s41Y51Y52s41s42s41
  s41s41s41s41s41s41s42s43s41Y52s41s41s41s42Y51s41s4HY51Y51s41Y51Y51s41Y51s41s41s41s41Y51Y51s41Y51
  s41Y51s41Y51Y51s41Y51s41Y51s41s41Y51Y51Y51Y55Y55Y51Y53s41s41s41s41s41s41Y51s41s41s41s42s41s41s41
  s41s41s41s41s41s41s41s41s41s42s45s41s4DY52Y5541g30Z51h22h21h21h21h21h22h21h21Z51Z51Z51h22h22h21h
  21h21h21h21h21h21h21Z51Z52h21h22h21h21h21h21h21h21h21h22h23h21Z52h21h21h21h22Z51h21h2HZ51Z51h21Z
  51Z51h21Z51h21h21h21h21Z51Z51h21Z51h21Z51h21Z51Z51h21Z51h21Z51h21h21Z51Z51Z51Z55Z55Z51Z53h21h21h
  21h21h21h21Z51h21h21h21h22h21h21h21h21h21h21h21h21h21h21h21h21h22h25h21h2DZ52Z5541g30W61.22.21.2
  1.21.21.22.21.21W61W61W61.22.22.21.21.21.21.21.21.21.21W61W62.21.22.21.21.21.21.21.21.21.22.23.2
  1W62.21.21.21.22W61.21.2HW61W61.21W61W61.21W61.21.21.21.21W61W61.21W61.21W61.21W61W61.21W61.21W6
  1.21.21W61W61W61W65W65W61W63.21.21.21.21.21.21W61.21.21.21.22.21.21.21.21.21.21.21.21.21.21.21.2
  1.22.25.21.2DW62W612P4k1cl3a5td2Vpw4t3qw41211k1yk31211k1pl31211k1ro31211k1.o3121u11vy22bc13bc14.
  w21ol21Wn12t35bc12eC8YPF_O1hm21ab23dc34dw21ZPGsL9t31t3EeC1t31t31aC1aCDaP8.g22bc11bc11bc11bc12bc1
  1bc11bc11bc11bc11bc11bc11bc11bc11bc11bc11bc1e2hj11zl24fz44fz4Afn56mh11mh12qz23fz410Rmh1z1_e57oJO
  015m2c140503u31u38q46u330A05u3101050J0101010101u3101wO40101S101010101010101010l102wOGu31u320n1ct
  11217R0Ju3W1u3Du3Y1u3X101012OICWn1Y1Zy3a298T5T1T1T1Tr2ow4E0U.e4Z1010101010t1hg48rw4123m11xe22lQ3
  lQ4je21ha210105pi21ke21qi27mEIpa24Wk24de2N020f1jg22lQ1lQ1lQ1lQ2lQ1lQ1lQ1lQ1lQ1lQ1lQ1lQ1lQ1lQ1lQ1
  lQ50G010Oh91h9Ih97wg11gY24hi44hi4Gwg11wg15hi46ae5Mwg11268CcX2Y1cX2a5nf25q.4Qli4Imi4b3010126P1.y2
  2ec13ec14ax29ec1Uhc34yw2a2ec11ec11ec11ec12ec11ec11ec11ec11ec11ec11ec11ec11ec11ec11ec11ec1f2qk2t3
  012j2Y140503u39y27u320Fu31u31050J0101010101u3101u340101S1010101010101u31010l102wOJ0n1vm21231k1cl
  41264k1ab2f5lh4i1Xd4c3oh41221k1dl41275t5m91m9Im98gf2a1Xp543u4Z31X12X13X11X13X11m53X15X12X15m53X1
  FX11m5221X11X11X13X11X1Gm59X11X11X13X1Am51X11X11m51m51m51m55m55m51m53X11X11X11X11X11X11m51X11X11
  X11X12X11X11X11X11X11X11X11X11X11X11X11X1a10a101010101010301020302020103010101010101010202010101
  0201020102040B05010101080q1040D0431u11V2V3V1V3V1k53V5V2V5k53VFV1k53V1V1V3V1VGk59V1V1V3VAk51V1V1k
  51k51k51k55k55k51k53V1V1V1V1V1V1k51V1V1V1V2V1V1V1V1V1V1V1V1V1V1V1V1255Ctv2Y1tv2f5q.4i1mi4c304335
  8qf14wDGwDCwDBcC43358qf14wDGwDCwDBcC12z2Y140503u39o57u320A05u32050J0101010101u3101u340101S101010
  1010101u31010l102wOJ0n1px112d1Bm1.Z3Y2a_28lc3h30UXv3Z1r81j9101010t1qd1122BCkRGhl3Hn2Pns16020D0p1
  0a2xY2Vxi4t3yi412Y3Z140503u3108l36030Fu32050J0101010101u3101u340101S1010101010101u31010l102wOH02
  0n1ht11224S_i3s5_d2Vbx4t3cx41214Sni4s5re2Vvx4t3wx41214SWp3s5se2Vby4t3cy41214Sjt3s5te2Vjy4t3ky412
  14SWw3s5ue2Vsy4t3ty41214Swx3s5ve2Vvy4t3wy412c3Y140503u39ZC6030Fu32050J0101010101u3101u340101S101
  0101010101u31010l102wOH020n1we212f3Z140503u39cD603010Eu32050J0101010101u3101u340101S101010101010
  1u31010l102wOH020n1dw112d3X140503u39zC90Fu32050J0101010101u3101u340101S1010101010101u31010l102wO
  10I0n1mX212c3X140503u39rB90A05u32050J0101010101u3101u340101S1010101010101u31010l102wOJ0n1cj212c3
  X140503u39eC90Fu3101050J0101010101u3101u340101S1010101010101u31010l102wOJ0n1gj212f3X140503u39bD9
  010Eu32050J0101010101u3101u340101S1010101010101u31010l102wOJ0n1gk212J8C0Y10a2yz18dk28Xe1r20i1Wv3
  a1i912O7C0Y10OsLi4rf25m_4Q0Icj41224o3c_28wc3f4qv3a1l912Y1CCbX210W1n21bX2Obb26020D0Y10H0a2nf2Vli4
  12UF1oy2B0G0Hh710U020D0NzX2S0Vnj3r4ou21pu21xv21ww212O4C0Y10f5m_4i1cj412JD1fx2B0X1f4V020D0NwX2S0V
  lo3r4ou21pu21xv21ww212ED1qx2B0G0g10i1at1x1uo3b1px1V0n2ou21pu21xv21ww2Z10125C1ex2B0Y10O0i1at1x1nj
  3b1ct1V0n2ou21pu21xv21ww212531qy2n3at1x1xo312221rx2n3ug212221ly2n3ug212271bx2n3z.2x1Xp3r4fw21gw2
  1w_21uZ312K5CbX2GbX2s5bj2Vli4t3012721Yy2n3zX212LD1ux2B0X1f4V020D0NwX2S0Vzo3r4ou21pu21xv21ww212JD
  1hy2B0X1n2V020D0Nat1S0Vxo3r4ou21pu21xv21ww212721my2n3zX212ND1ix2B0X1f4V020D0NwX2S0Vlo3r4ou21pu21
  xv21ww212LD1jy2B0X1n2V020D0Nat1S0V_o3r4ou21pu21xv21ww212OD1xx2B0X1n2V020D0Nat1S0Vnj3r4ou21pu21xv
  21ww212MD1ky2B0X1h7V020D0Nat1S0Vxo3r4ou21pu21xv21ww215Z1AC0Fat2If4V020D0p10Hat2p1kw1a1wz412N2Y4T
  b5012L8C0FmEJ0O0a4p98eZ2V05.e51223o3_f28vc3f4ov31213o3d_28xc3f4rv31233g6r98ia2a1hf51223o3i_28yc3
  f4iw31223g6t98df2a1co51213g6v98ef2a1ho5123d11Xz22.d13.d14lx21ha27la31ox21ma3Ppa24jc34ay2H0i195zX
  32.d11.d11.d11.d12.d11.d11.d11.d11.d11.d11.d11.d11.d11.d11.d11.d1e2dj15dz44dz4Gdj11dj15dz4J0108d
  j112J6C0GhY4g10i4ha2V05gf51213SwY4s5Xb2a1xf51213Sba4s5Yb2a1yf51213Smb4s5nb2a1jg51213Sdf4s5_e2a1Z
  m51213Suf4s5Xf2a1bm51213Svf4s5Yf2a1cm51213S.f4s5af2a1dm512I4R0a40p1lw1a1xz41214B_e1l5YY2Ont1a101
  233S0s5bv1a1og512l18C0X1n2V020D0p10a2lY2b2kd412E4R0l508uY2a1le51242w5wY2Ort11222o6.Y2a1pe51222w5
  WZ2OZu112TV1yy22cc13cc14Yx29cc1Ufc34nw2z197cc11cc11cc11cc12cc11cc11cc11cc11cc11cc11cc11cc11cc11c
  c11cc11cc1a1bo3b1zl2m301010104_e51222w5pZ2Ocu11212w5rZ2Odu11212w5sZ2Oeu11262o6Wa2a1af51212o6ea2a
  1df512C2o6fa2a1ef51212o6ga2a1ff5128O1zy22dc13dc14Zx29dc1Ugc34rw2a2dc11dc11dc11dc12dc11dc11dc11dc
  11dc11dc11dc11dc11dc11dc11dc11dc1W6if512E1t8ak41232o6Wb2a1wf51212o6kb2a1gg51212o6lb2a1hg51212o6m
  b2a1ig51214BWTl5op1OWy1a101212w5yp1Owy11212w5Wq1Odz11212w5eq1Ofz11212w5gq1Ogz11212w5hq1Ohz112g29
  B_e110X1f4V020D0p10i1YY2Ovd21282o6gv1a1dj51222w5wY2Ozd212I2o6Xe2a1dh51222w5WZ2Oie21212w5pZ2Oke21
  212w5rZ2Ole21212w5sZ2Ome21252o6pe2a1gh51214BWTl5op1Ofs1a101212w5yp1Ojs11212w5Wq1Ows11212w5eq1Oys
  11212w5gq1Ozs11212w5hq1O.s112u29B_e110X1f4V020D0p10i1YY2Ojv11212w5wY2Onv11212w5WZ2O.v11212w5pZ2O
  Ww11212w5rZ2OXw11212w5sZ2OYw112k2A1nIAan1d39x1bo3Dop1O_l2m301010101212w5yp1OZm21212w5Wq1Omm21212
  w5eq1Oom21212w5gq1Opm21212w5hq1Oqm212c14BWTl5op1OtW2b201212w5yp1OxW21212w5Wq1OeX21212w5eq1OgX212
  12w5gq1OhX21212w5hq1OiX212e39BWT10X1n2V020D0p10i1op1Onh21212w5yp1Orh21212w5Wq1OYi21212w5eq1Oai21
  212w5gq1Obi21212w5hq1Oci212j39BWT10X1n2V020D0p10i1op1Ohi21212w5yp1Oli21212w5Wq1Oyi21212w5eq1O.i2
  1212w5gq1O_i21212w5hq1OWj212o39Ban110X1h7V020D0p10i1op1Onj21212w5yp1Orj21212w5Wq1OYk21212w5eq1Oa
  k21212w5gq1Obk21212w5hq1Ock212l22o6ht1a101211o6jt112RY11Zz22hc13hc14mx21d88hc1Ukc34xy2Y2.X32hc11
  hc11hc11hc12hc11hc11hc11hc11hc11hc11hc11hc11hc11hc11hc11hc1n10Nkj11do24gd54gd5Gkj11kj15gd5Skj112
  21o6lt11211o6mt11211o6XY21211o6ot144l4X310201hx11i_11ay11by11zY21ix11vk11ok1161rZ1104rk11sk11qk1
  125yQ161010BnM4016261Xl11Yl11zk11yC2010G09212123tQ96101010161610105650103010101010101M101010101j
  M1lk1101010101Xu11010101010101.k1265_k11Wl1D69pz41yc43iPBhP1hPb1hP3hP2hPRoe1IhPAhP1hP1hP1jP2hP2h
  P2hP3hPy1ju35ai41bi412j1Y11uy22nS3nS4he21d88nSQh74.j24cw2Y2iW32nS1nS1nS1nS2nS1nS1nS1nS1nS1nS1nS1
  nS1nS1nS1nS1nSn10ObY24xu34xu3G_f11_f15xu3S_f1127X11px22ac13ac14xw21_S8ac1QsZ14bc34zc3Y2Z.22ac11a
  c11ac11ac12ac11ac11ac11ac11ac11ac11ac11ac11ac11ac11ac11ac1e2dc15op34op3Gxd11xd15op3Sxd11241o6pt1
  1211o6qt11211o6st112Q3Bu2l50Opk21221o6ut11211o6zY21211o6vt11211o6wt11211o6xt11211o6yt11211o6zt11
  211o6.t11211o6_t11211o6Wu11211o6Xu11211o6Yu11211o6au11211o6Wx112Z13Bu2l50Oqk21221o6Xx11211o6Yx11
  211o6Zx11211o6dZ212i22o6kZ2a101221o6fu11211o6gu112z14Bd8Z3oa2i20Ovm212t22o6aj2a101251o6xf21211o6
  yf212q23Bl8l50O.f21261o6mu11231o6rf21221o6nx11271o6.x11211o6_x11211o6Xy11211o6Zy11211o6vy11211o6
  xy11211o6yy11211o6ag21211o6zy11211o6.y11211o6_y11211o6Wz11211o6Xz11211o6Yz11211o6Zz11211o6az1121
  1o6bz11211o6cz11211o6ez11211o6cg21211o6iz11211o6jz112Y21k3ma21221o6X_11211o6px11211o6qx144_12DpZ
  1vAvw412c33Bl8l50O__11241k3rt112g23Bd8l50Oll24441DqZ112d11k3rt112Y12k3gm2a3ct11221k3gm21221k3pn3
  12j2V1az22ic13ic14sx29ic1Umc34_y2Y2_X32ic11ic11ic11ic12ic11ic11ic11ic11ic11ic11ic11ic11ic11ic11i
  c11ic1e2lj15tg54tg5Glj11lj15tg5Slj11291o6gw112f11o6ud21211o6wd21211o6xd21211o6yd21211o6.d212f21o
  6yl21221o6We21211o6Ye21211o6Ze21211o6ae21211o6be21211o6ce21211o6de21211o6ee21211o6fe21211o6ge212
  11o6he21211o6je212d21o6zl21221o6ne21211o6oe212U1k3oa212z11o6bY21231o6qe212S2k3n1a3ym21231o6es112
  11o6gs11211o6hs11211o6is11211o6ks11211o6ls11211o6dv11211o6ms11211o6ns11211o6os11211o6ps11211o6qs
  11211o6rs11211o6ss11211o6ts11211o6us11211o6vs11211o6xs11211o6hh21211o6_s11211o6Wt112N2k3ma2a3we2
  1221o6Xt11211o6ct11211o6dt11221k3rt112r1V1dz22jc13jc14vx29jc1Unc34Wz2Y2WY32jc11jc11jc11jc12jc11j
  c11jc11jc11jc11jc11jc11jc11jc11jc11jc11jc1e2mj15km54km5Gmj11mj15km5Smj112r11o6iv11211o6kv11211o6
  lv11211o6mv11211o6ov112q11o6um21221o6pv11211o6qv11211o6rv11211o6sv11211o6tv11211o6uv11211o6vv112
  11o6wv11211o6xv11211o6yv11211o6zv11211o6_v11211o6Zw11211o6aw112M1k3oa21221o6bw112o21o6jk212p11o6
  .l21211o6Wm21211o6Xm21211o6Ym21211o6am21211o6bm21211o6cm21211o6dm21211o6em21211o6fm21211o6gm2121
  1o6hm21211o6im21211o6jm21211o6km21211o6lm21211o6nm21211o6rm21211o6sm212L2k3ma2a3dw11221o6tm21211
  o6vm21211o6wm212n73k3rt1a3mX2b2012m1V1ez22kc13kc14wx29kc1Uoc34bz2Y2XY32kc11kc11kc11kc12kc11kc11k
  c11kc11kc11kc11kc11kc11kc11kc11kc11kc1e2nj15sm54sm5Gnj11nj15sm5Snj112h11o6zm21232k3n1a3sW21211o6
  uW21211o6vW21211o6wW21211o6yW21211o6zW21211o6.W21211o6_W21211o6WX21211o6XX21211o6YX21211o6ZX2121
  1o6aX21211o6bX21211o6cX21211o6dX21211o6fX21211o6jX21211o6kX21211o6lX21211o6mX21211o6nX212N2k3rt1
  a3cj212PV1fz22lc13lc14yx29lc1Upc34cz2Y2YY32lc11lc11lc11lc12lc11lc11lc11lc11lc11lc11lc11lc11lc11l
  c11lc11lc1e2oj15.m54.m5Goj11oj15.m5Soj112P1o6.m21211o6mh21211o6oh21211o6ph21211o6qh21211o6sh2121
  1o6th21211o6uh21211o6vh21211o6wh21211o6xh21211o6yh21211o6zh21211o6.h21211o6_h21211o6Wi21211o6Xi2
  1211o6Zi21211o6di21211o6ei21211o6fi21211o6cj21211o6dj212Y42k3rt1a3gj212PV1gz22mc13mc14.x29mc1Uqc
  34hz2Y2ZY32mc11mc11mc11mc12mc11mc11mc11mc11mc11mc11mc11mc11mc11mc11mc11mc1e2pj15cn54cn5Gpj11pj15
  cn5Spj11231o6_m212b41o6gi21211o6ii21211o6ji21211o6ki21211o6mi21211o6ni21211o6oi21211o6pi21211o6q
  i21211o6ri21211o6si21211o6ti21211o6ui21211o6vi21211o6wi21211o6xi21211o6zi21211o6Xj21211o6Yj21211
  o6Zj21211o6gj21211o6hj212OV1iz22nc13nc14_x29nc1Urc34mz2Y2aY32nc11nc11nc11nc12nc11nc11nc11nc11nc1
  1nc11nc11nc11nc11nc11nc11nc1e2qj15jn54jn5Gqj11qj15jn5Sqj112O1o6Wn212b31o6mj21211o6oj21211o6pj212
  11o6qj21211o6sj21211o6tj21211o6uj21211o6vj21211o6wj21211o6xj21211o6yj21211o6zj21211o6.j21211o6_j
  21211o6Wk21211o6Xk21211o6Zk21211o6dk21211o6ek21211o6fk21211o6gk21211o6hk212OV1jz22oc13oc14Wy29oc
  1Usc34nz2Y2bY32oc11oc11oc11oc12oc11oc11oc11oc11oc11oc11oc11oc11oc11oc11oc11oc1e2rj15pn54pn5Grj11
  rj15pn5Srj112O1o6Xn212v41k3g41211o6xe21211o6ze212v41o6ft11281k3rt112k31k3g41211o6ew112q21o6pX212
  91o6fj212a11o6jj212CV1kz22pc13pc14Xy29pc1Utc34oz2Y2cY32pc11pc11pc11pc12pc11pc11pc11pc11pc11pc11p
  c11pc11pc11pc11pc11pc1e2sj15yn54yn5Gsj11sj15yn5Ssj11231o6Zn2122V1lz22qc13qc14Zy29qc1Uuc34qz2Y2dY
  32qc11qc11qc11qc12qc11qc11qc11qc11qc11qc11qc11qc11qc11qc11qc11qc1e2tj15qo54qo5Gtj11tj15qo5Stj112
  21o6an224_8e21WZ22oI1Yq1101oI101eP121oI10701oI106pc2Jbn122101oI1gx13oIVqZ2926u11v1A_81_8901oI1oI
  1gv11gv12oI1oI1oI1oI1oI1oI1oI1oI1oI1oI1oI1oI10225010M01030B010b1030202ed5Jbq3604wp37bq31bq360A01
  0101020202030l1nz4D02412DpZ1vAvw42411DqZ124Y9C42101kq11lq11eP1220u3Wu1Dcu1O0103oP2412DpZ1vAvw424
  11DqZ144Y788wi250D6Eyo1i12f10f701044125tl3Z1bp1248U14243444947yQNpV1034VtQb141Wk11.C1.C241414141
  Xk114141414141414x20T0c1yr2j102412DpZ1vAvw42411DqZ12433w3484b50241442j14g24142422DpZ1vAvw42422Dp
  Z1vAvw42421DqZ12421DqZ124C88nY150D6Eyo1i12f10f701012yEb1404r4106r46X57X520AX56X5104X510J01010101
  01X5101X540101X51010101010101X51010W1X5F02r4H02012vEb1404s4106s46Y57Y520AY56Y5104Y510J0101010101
  Y5101Y540101Y51010101010101Y51010W1Y5F02s4H0202431e1bp1122w20X61yA2yA2yA1yA1yA1yA2yA1X61X61X61yA
  101yA2yA1yA1yA1X61yA1yA1yA1yA1X61X61X61yA3yA1yA1yA1yA1yA1yA1yA1yA1X61yA3yA1X61X62yA1yA1yA1X62yA1
  yAMX62X61yA1yA1yA3X67X63X61yA1yA1X61X61X61X65X65X61X63yA1yA1yA1yA1yA1yA1X61yA1yA1yA1yA1X61yA1yA1
  yA1yA1yA1yA1yA1yA1yA1yA1yA1yA1yA4yA3yA1yA121v20X81.A2.A2.A1.A1.A1.A2.A1X81X81X81.A2.A2.A1.A1.A1X
  81.A1.A1.A1.A1X81X81X81.A3.A1.A1.A1.A1.A1.A1.A1.A1X81.A3.A1X81X82.A1.A1.A1X82.A1.AMX82X81.A1.A1.
  A3X87X83X81.A1.A1X81X81X81X85X85X81X83.A1.A1.A1.A1.A1.A1X81.A1.A1.A1.A1X81.A1.A1.A1.A1.A1.A1.A1.
  A1.A1.A1.A1.A1.A4.A3.A1.A121v20Y81_A2_A2_A1_A1_A1_A2_A1Y81Y81Y81_A2_A2_A1_A1_A1Y81_A1_A1_A1_A1Y8
  1Y81Y81_A3_A1_A1_A1_A1_A1_A1_A1_A1Y81_A3_A1Y81Y82_A1_A1_A1Y82_A1_AMY82Y81_A1_A1_A3Y87Y83Y81_A1_A
  1Y81Y81Y81Y85Y85Y81Y83_A1_A1_A1_A1_A1_A1Y81_A1_A1_A1_A1Y81_A1_A1_A1_A1_A1_A1_A1_A1_A1_A1_A1_A1_A
  4_A3_A1_A121v20Z81WB2WB2WB1WB1WB1WB2WB1Z81Z81Z81WB2WB2WB1WB1WB1Z81WB1WB1WB1WB1Z81Z81Z81WB3WB1WB1
  WB1WB1WB1WB1WB1WB1Z81WB3WB1Z81Z82WB1WB1WB1Z82WB1WBMZ82Z81WB1WB1WB3Z87Z83Z81WB1WB1Z81Z81Z81Z85Z85
  Z81Z83WB1WB1WB1WB1WB1WB1Z81WB1WB1WB1WB1Z81WB1WB1WB1WB1WB1WB1WB1WB1WB1WB1WB1WB1WB4WB3WB1WB121v20a
  81XB2XB2XB1XB1XB1XB2XB1a81a81a81XB2XB2XB1XB1XB1a81XB1XB1XB1XB1a81a81a81XB3XB1XB1XB1XB1XB1XB1XB1X
  B1a81XB3XB1a81a82XB1XB1XB1a82XB1XBMa82a81XB1XB1XB3a87a83a81XB1XB1a81a81a81a85a85a81a83XB1XB1XB1X
  B1XB1XB1a81XB1XB1XB1XB1a81XB1XB1XB1XB1XB1XB1XB1XB1XB1XB1XB1XB1XB4XB3XB1XB24EW11X12X11X12X14X19X1
  Qm54X14X1k1m51m5Am51m5AX11X11X11X12X11X11X11X11X11X11X11X11X11X11X11X1k30H010241T1V2V1V2V4V9VQk5
  4V4Vk1k51k5Ak51k5AV1V1V1V2V1V1V1V1V1V1V1V1V1V1V1V24848tc140S0BzY12432DpZ1vAvw42432DpZ1vAvw4243V6
  jb21kb23Zp18Wp11Xp11_o1Sfp11hp11cp1i2wo15Yq27gp16bs21dp11ep1QjY4BgY41gY4b1gY43gY42gY4j1gY4AgY41g
  Y41gY41iY42gY42gY42gY43gY4y1oc42431DqZ12431DqZ1231m11bj12y1122y12qf12y12wD1wD6y17cM101wDCwD561wD
  162y11cR1cC2y1VXMF010A010Ay11y11y11y11gY11y11y11y11y11y11y11y11y11y11y11y11y1M0b2rm5Twp3p2nz4I01
  023178tJ4lS1lSFlSClS6lSl2e_1231X11jx12h83h82nb12h826166h88610C6663h82wR2h8a2h81h81h81h8101h81h81
  h81h81h81h81h81h81h81h81h81h8x2jm523118tJ241V1p.12gB3gB2nY12gB306gBLyo1603gB1gx11yC2gBa2gB1gB1gB
  1gB2gB1gB1gB1gB1gB1gB1gB1gB1gB1gB1gB1gBM6b2ed52413D6R0Aiv1236V1bZ22rD3rD2qo12rD2cK106rD9cKCcK603
  rD2hb12rDa2rD1rD1rD1rD2rD1rD1rD1rD1rD1rD1rD1rD1rD1rD1rD1rDx2rg52355Csi11si1E0DlS6si124318tJ2452e
  1bp1Aui2242S1qj22xM3xM2gt12xM306xMC2IxM2xn12xMa2xM1xM1xM1xM2xM1xM1xM1xM1xM1xM1xM1xM1xM1xM1xM1xMx
  2po524118tJ23A5D0Hno11br19060236U1pv12x53x52jr12x52wD106x5Lmr16cK3x52kV2x5a2x51x51x51x52x51x51x5
  1x51x51x51x51x51x51x51x51x5x2in523858et146G6C6r2023118tJ431U1lj22uM3uM2jt12uM168uM90C09uM2yn12uM
  a2uM1uM1uM1uM2uM1uM1uM1uM1uM1uM1uM1uM1uM1uM1uM1uM62r2zm543118tJ23B58ro14cK1cKR06cK120q20ng11nG2n
  G2nG1nG1nG3nG1ng12ng11nG2nG2nG1nG1nG1ng11nG1nG1nG1nG1ng11ng12nG3nG1nG1nG1nG1nG1nG1nG1nG2nG1ra31a
  j21nG1ng13nG1nG1nG3nG1nGPnG1nG1nG3ng1Ang11nG1nG1ng11ng11ng11ng1411ng15ng11ng13nG1nG1nG1nG1nG1nG1
  ng11nG1nG1nG1nG2nG1nG1nG1nG1nG1nG1nG1nG1nG1nG1nG1nG1nG7nG1nGG1j1XO1WQ24GS1kx12i83i82tc12i8207i8L
  09i82zY12i8a2i81i81i81i82i81i81i81i81i81i81i81i81i81i81i81i8x2xn515_FV4050Cb290CU1U4050J01010101
  010101040101b2101010101010101010l10Jig42015ZGV4050Cv290Cs11s14050J01010101010101040101v210101010
  1010101010l10Jnb22023A38cj140Y162311e1g_123C1e102461o1iv124118tJ2421o1ui22411o1ka31291_4012cGV40
  50CZ590Ch21h24050J01010101010101040101Z5101010101010101010l10J02015fGT4050C_590H050J010101010101
  01040101_5101010101010101010l10I_53015dGT4050CW690H050J01010101010101040101W6101010101010101010l
  10IW6301544g1010p3b21b215D4g1010p3v21lg41554g1010p3Z51Z51531_4ng423ES1mj22vM3vM2kt12vM9vML6603vM
  2zn12vMa2vM1vM1vM1vM2vM1vM1vM1vM1vM1vM1vM1vM1vM1vM1vM1vMx2bn523F1e1023218tJ23218tJ231S1nj22wM3wM
  2lt12wM9wMC2F03wM2.n12wMa2wM1wM1wM1wM2wM1wM1wM1wM1wM1wM1wM1wM1wM1wM1wM1wMx2on523118tJ23h15C010F0
  I0l202313Uno11br19023228l.1W1012Sn20og11oG2oG2oG1oG1oG3oG1og12og11oG2oG2oG1oG1oG1og11oG1oG1oG1oG
  1og11og12oG3oG1oG1oG1oG1oG1oG1oG1oG2oG102oG1og13oG1oG1oG3oG1oGPoG1oG1oG3og1Aog11oG1oG1og11og11og
  11og15og15og11og13oG1oG1oG1oG1oG1oG1og11oG1oG1oG1oG2oG1oG1oG1oG1oG1oG1oG1oG1oG1oG1oG1oG1oG7oG1oG
  z101vQ12yHW140502dQ109x190Hjb350J01010101010101040101x1101010101010101010l10J020PWT1211l1kb32341
  8m.123118o.123118s.123118t.123118u.123118tJ23118v.123118w.123118n.123118r.1120n20bf11.G2.G2.G1.G
  1.G3.G1bf12bf11.G2.G2.G1.G1.G1bf11.G1.G1.G1.G1bf11bf11bf11.G3.G1.G1.G1.G1.G1.G1.G1.G2.G3.G1bf13.
  G1.G1.G3.G1.GP.G1.G1.G3bf1Abf11.G1.G1bf11bf11bf11bf1411bf15bf11bf13.G1.G1.G1.G1.G1.G1bf11.G1.G1.
  G1.G2.G1.G1.G1.G1.G1.G1.G1.G1.G1.G1.G1.G1.G7.G1.GG162wI.11uh13d540103yd49090Gmr31040103010101010
  101010101010101010101gi110101010101dL101eL1q21q21010101d11010101010101010104010RfLF0L0Z3w.4l1iq3
  1si41si41si41si41si4122m20af11rI2rI2rI1rI1rI3rI1af12af11rI2rI2rI1rI1rI1af11na31rI1rI1rI1af11af11
  01rI3rI1rI1rI1rI1rI1rI1rI1rI2rI3rI1af13rI1rI1rI3rI1rIPrI1rI1rI3af1Aaf11rI1rI1af11af11af11af15af1
  5af11af13rI1rI1rI1rI1rI1rI1af11rI1rI1rI1rI2rI1rI1rI1rI1rI1rI1rI1rI1rI1rI1rI1rI1rI7rI1rIf1rQ15xHT
  4050309jN90H050J01010101010101040101jN101010101010101010l10L0151l20qi11lG2lG2lG1lG1lG3lG1qi12qi1
  1lG2lG2lG1lG1lG1qi11lG1lG1lG1lG1qi11rt22lG3lG1lG1lG1lG1lG1lG1lG1lG2lG3lG1qi13lG1lG1lG3lG1lGPlG1l
  G1lG3qi1Aqi11lG1lG1qi11qi11qi11qi15qi15qi11qi13lG1lG1lG1lG1lG1lG1qi11lG1lG1lG1lG2lG1lG1lG1lG1lG1
  lG1lG1lG1lG1lG1lG1lG1lG7lG1lGDrt2121m20Xh11cF2cF2cF1cF1cF3cF1Xh12Xh11cF2cF2cF1cF1cF1Xh11cF1cF1cF
  1cF1Xh11Xh12cF3cF1cF1cF1cF1cF1cF1cF1cF2cF2cF1cF1Xh13cF1cF1cF3cF1cFPcF1cF1cF3Xh1AXh11cF1cF1Xh11Xh
  11Xh11Xh15Xh15Xh11Xh13cF1cF1cF1cF1cF1cF1Xh11cF1cF1cF1cF2cF1cF1cF1cF1cF1cF1cF1cF1cF1cF1cF1cF1cF7c
  F1cFD015xHT4050309kN90H050J01010101010101040101kN101010101010101010l10L015xHT4050309lN90H050J010
  10101010101040101lN101010101010101010l10L015xHT4050309iO90H050J01010101010101040101iO10101010101
  0101010l10L015xHT4050309mN90H050J01010101010101040101mN101010101010101010l10L015wHT4050309nN90H0
  50J01010101010101040101nN101010101010101010l10L015wHT4050309jO90H050J01010101010101040101jO10101
  0101010101010l10L015wHT4050309kO90H050J01010101010101040101kO101010101010101010l10L015wHT4050309
  oN90H050J01010101010101040101oN101010101010101010l10L015wHT4050309pN90H050J01010101010101040101p
  N101010101010101010l10L015wHT4050309lO90H050J01010101010101040101lO101010101010101010l10L015wHT4
  050309qN90H050J01010101010101040101qN101010101010101010l10L012Cl20Yh11dF2dF2dF1dF1dF3dF1Yh12Yh11
  dF2dF2dF1dF1dF1Yh11dF1dF1dF1dF1Yh11Yh12dF3dF1dF1dF1dF1dF1dF1dF1dF2dF2dF1dF1Yh13dF1dF1dF3dF1dFPdF
  1dF1dF3Yh1AYh11dF1dF1Yh11Yh11Yh11Yh15Yh15Yh11Yh13dF1dF1dF1dF1dF1dF1Yh11dF1dF1dF1dF2dF1dF1dF1dF1d
  F1dF1dF1dF1dF1dF1dF1dF1dF7dF1dF121l20Zh11eF2eF2eF1eF1eF3eF1Zh12Zh11eF2eF2eF1eF1eF1Zh11eF1eF1eF1e
  F1Zh11Zh12eF3eF1eF1eF1eF1eF1eF1eF1eF2eF2eF1eF1Zh13eF1eF1eF3eF1eFPeF1eF1eF3Zh1AZh11eF1eF1Zh11Zh11
  Zh11Zh15Zh15Zh11Zh13eF1eF1eF1eF1eF1eF1Zh11eF1eF1eF1eF2eF1eF1eF1eF1eF1eF1eF1eF1eF1eF1eF1eF1eF7eF1
  eF12U1l1012hIT4050309y690M0J01010101010101040101y6101010101010101010l10J02012hIT4050309z690M0J01
  010101010101040101z6101010101010101010l10J020156l20s81u42u42u41u41u43u41s82s81u42u42u41u41u41s81
  u41u41u41u41s81s82u43u41u41u41u41u41u41u41u42u43u41s83u41u41u43u41u4Pu41u41u43s8As81u41u41s81s81
  s81s85s85s81s83u41u41u41u41u41u41s81u41u41u41u42u41u41u41u41u41u41u41u41u41u41u41u41u47u41u4Ds81
  51l20t81v42v42v41v41v43v41t82t81v42v42v41v41v41t81v41v41v41v41t81t82v43v41v41v41v41v41v41v41v42v
  43v41t83v41v41v43v41v4Pv41v41v43t8At81v41v41t81t81t81t85t85t81t83v41v41v41v41v41v41t81v41v41v41v
  42v41v41v41v41v41v41v41v41v41v41v41v41v47v41v4Dt862N7Cje4Y1zl3c8Wx41Wx41Wx41Wx41Wx46217Cte4Y1sv3
  c8sx41sx41sx41sx41sx46217C_e4Y1dj3c8Yy41Yy41Yy41Yy41Yy46217Cbf4Y1xw3c8gy41gy41gy41gy41gy4125l20W
  g11xF2xF2xF1xF1xF3xF1Wg12Wg11xF2xF2xF1xF1xF1Wg11xF1xF1xF1xF1Wg11Wg12xF3xF1xF1xF1xF1xF1xF1xF1xF2x
  F3xF1Wg13xF1xF1xF3xF1xFPxF1xF1xF3Wg1AWg11xF1xF1Wg11Wg11Wg11Wg15Wg15Wg11Wg13xF1xF1xF1xF1xF1xF1Wg1
  1xF1xF1xF1xF2xF1xF1xF1xF1xF1xF1xF1xF1xF1xF1xF1xF1xF7xF1xFD012vIU4050309vD90H050J0101010101010104
  0101vD101010101010101010l10J020121k20vZ11kF2kF2kF1kF1kF3kF1vZ12vZ11kF2kF2kF1kF1kF1vZ11kF1kF1kF1k
  F1vZ11vZ12kF3kF1kF1kF1kF1kF1kF1kF1kF2kF3kF1vZ13kF1kF1kF3kF1kFPkF1kF1kF3vZ1AvZ11kF1kF1vZ11vZ11vZ1
  1vZ15vZ15vZ11vZ13kF1kF1kF1kF1kF1kF1vZ11kF1kF1kF1kF2kF1kF1kF1kF1kF1kF1kF1kF1kF1kF1kF1kF1kF7kF1kF1
  220121k20sg11sG2sG2sG1sG1sG3sG1sg12sg11sG2sG2sG1sG1sG1sg11sG1sG1sG1sG1sg11sg12sG3sG1sG1sG1sG1sG1
  sG1sG1sG2sG3sG1sg13sG1sG1sG3sG1sGPsG1sG1sG3sg1Asg11sG1sG1sg11sg11sg11sg15sg15sg11sg13sG1sG1sG1sG
  1sG1sG1sg11sG1sG1sG1sG2sG1sG1sG1sG1sG1sG1sG1sG1sG1sG1sG1sG1sG7sG1sG121k20ug11uG2uG2uG1uG1uG3uG1u
  g12ug11uG2uG2uG1uG1uG1ug11uG1uG1uG1uG1ug11ug12uG3uG1uG1uG1uG1uG1uG1uG1uG2uG3uG1ug13uG1uG1uG3uG1u
  GPuG1uG1uG3ug1Aug11uG1uG1ug11ug11ug11ug15ug15ug11ug13uG1uG1uG1uG1uG1uG1ug11uG1uG1uG1uG2uG1uG1uG1
  uG1uG1uG1uG1uG1uG1uG1uG1uG1uG7uG1uG121k20wg11wG2wG2wG1wG1wG3wG1wg12wg11wG2wG2wG1wG1wG1wg11wG1wG1
  wG1wG1wg11wg12wG3wG1wG1wG1wG1wG1wG1wG1wG2wG3wG1wg13wG1wG1wG3wG1wGPwG1wG1wG3wg1Awg11wG1wG1wg11wg1
  1wg11wg15wg15wg11wg13wG1wG1wG1wG1wG1wG1wg11wG1wG1wG1wG2wG1wG1wG1wG1wG1wG1wG1wG1wG1wG1wG1wG1wG7wG
  1wG121k20xg11xG2xG2xG1xG1xG3xG1xg12xg11xG2xG2xG1xG1xG1xg11xG1xG1xG1xG1xg11xg12xG3xG1xG1xG1xG1xG1
  xG1xG1xG2xG3xG1xg13xG1xG1xG3xG1xGPxG1xG1xG3xg1Axg11xG1xG1xg11xg11xg11xg15xg15xg11xg13xG1xG1xG1xG
  1xG1xG1xg11xG1xG1xG1xG2xG1xG1xG1xG1xG1xG1xG1xG1xG1xG1xG1xG1xG7xG1xG121k20fa11lH2lH2lH1lH1lH3lH1f
  a12fa11lH2lH2lH1lH1lH1fa11lH1lH1lH1lH1fa11fa12lH3lH1lH1lH1lH1lH1lH1lH1lH2lH3lH1fa13lH1lH1lH3lH1l
  HPlH1lH1lH3fa1Afa11lH1lH1fa11fa11fa11fa15fa15fa11fa13lH1lH1lH1lH1lH1lH1fa11lH1lH1lH1lH2lH1lH1lH1
  lH1lH1lH1lH1lH1lH1lH1lH1lH1lH7lH1lH121k20qa11wH2wH2wH1wH1wH3wH1qa12qa11wH2wH2wH1wH1wH1qa11wH1wH1
  wH1wH1qa11qa12wH3wH1wH1wH1wH1wH1wH1wH1wH2wH3wH1qa13wH1wH1wH3wH1wHPwH1wH1wH3qa1Aqa11wH1wH1qa11qa1
  1qa11qa15qa15qa11qa13wH1wH1wH1wH1wH1wH1qa11wH1wH1wH1wH2wH1wH1wH1wH1wH1wH1wH1wH1wH1wH1wH1wH1wH7wH
  1wH121k20Xg11yF2yF2yF1yF1yF3yF1Xg12Xg11yF2yF2yF1yF1yF1Xg11yF1yF1yF1yF1Xg11Xg12yF3yF1yF1yF1yF1yF1
  yF1yF1yF2yF3yF1Xg13yF1yF1yF3yF1yFPyF1yF1yF3Xg1AXg11yF1yF1Xg11Xg11Xg11Xg15Xg15Xg11Xg13yF1yF1yF1yF
  1yF1yF1Xg11yF1yF1yF1yF2yF1yF1yF1yF1yF1yF1yF1yF1yF1yF1yF1yF1yF7yF1yF121k20xZ11mF2mF2mF1mF1mF3mF1x
  Z12xZ11mF2mF2mF1mF1mF1xZ11mF1mF1mF1mF1xZ11xZ12mF3mF1mF1mF1mF1mF1mF1mF1mF2mF3mF1xZ13mF1mF1mF3mF1m
  FPmF1mF1mF3xZ1AxZ11mF1mF1xZ11xZ11xZ11xZ15xZ15xZ11xZ13mF1mF1mF1mF1mF1mF1xZ11mF1mF1mF1mF2mF1mF1mF1
  mF1mF1mF1mF1mF1mF1mF1mF1mF1mF7mF1mF121k20wZ11lF2lF2lF1lF1lF3lF1wZ12wZ11lF2lF2lF1lF1lF1wZ11lF1lF1
  lF1lF1wZ11wZ12lF3lF1lF1lF1lF1lF1lF1lF1lF2lF3lF1wZ13lF1lF1lF3lF1lFPlF1lF1lF3wZ1AwZ11lF1lF1wZ11wZ1
  1wZ11wZ15wZ15wZ11wZ13lF1lF1lF1lF1lF1lF1wZ11lF1lF1lF1lF2lF1lF1lF1lF1lF1lF1lF1lF1lF1lF1lF1lF1lF7lF
  1lF121k20.g11_G2_G2_G1_G1_G3_G1.g12.g11_G2_G2_G1_G1_G1.g11_G1_G1_G1_G1.g11.g12_G3_G1_G1_G1_G1_G1
  _G1_G1_G2_G3_G1.g13_G1_G1_G3_G1_GP_G1_G1_G3.g1A.g11_G1_G1.g11.g11.g11.g15.g15.g11.g13_G1_G1_G1_G
  1_G1_G1.g11_G1_G1_G1_G2_G1_G1_G1_G1_G1_G1_G1_G1_G1_G1_G1_G1_G7_G1_G121k20xf11sF2sF2sF1sF1sF3sF1x
  f12xf11sF2sF2sF1sF1sF1xf11sF1sF1sF1sF1xf11xf12sF3sF1sF1sF1sF1sF1sF1sF1sF2sF3sF1xf13sF1sF1sF3sF1s
  FPsF1sF1sF3xf1Axf11sF1sF1xf11xf11xf11xf15xf15xf11xf13sF1sF1sF1sF1sF1sF1xf11sF1sF1sF1sF2sF1sF1sF1
  sF1sF1sF1sF1sF1sF1sF1sF1sF1sF7sF1sF121k20wf11rF2rF2rF1rF1rF3rF1wf12wf11rF2rF2rF1rF1rF1wf11rF1rF1
  rF1rF1wf11wf12rF3rF1rF1rF1rF1rF1rF1rF1rF2rF3rF1wf13rF1rF1rF3rF1rFPrF1rF1rF3wf1Awf11rF1rF1wf11wf1
  1wf11wf15wf15wf11wf13rF1rF1rF1rF1rF1rF1wf11rF1rF1rF1rF2rF1rF1rF1rF1rF1rF1rF1rF1rF1rF1rF1rF1rF7rF
  1rF121k20rg11rG2rG2rG1rG1rG3rG1rg12rg11rG2rG2rG1rG1rG1rg11rG1rG1rG1rG1rg11rg12rG3rG1rG1rG1rG1rG1
  rG1rG1rG2rG3rG1rg13rG1rG1rG3rG1rGPrG1rG1rG3rg1Arg11rG1rG1rg11rg11rg11rg15rg15rg11rg13rG1rG1rG1rG
  1rG1rG1rg11rG1rG1rG1rG2rG1rG1rG1rG1rG1rG1rG1rG1rG1rG1rG1rG1rG7rG1rG121k20Wa11zF2zF2zF1zF1zF3zF1W
  a12Wa11zF2zF2zF1zF1zF1Wa11zF1zF1zF1zF1Wa11Wa12zF3zF1zF1zF1zF1zF1zF1zF1zF2zF3zF1Wa13zF1zF1zF3zF1z
  FPzF1zF1zF3Wa1AWa11zF1zF1Wa11Wa11Wa11Wa15Wa15Wa11Wa13zF1zF1zF1zF1zF1zF1Wa11zF1zF1zF1zF2zF1zF1zF1
  zF1zF1zF1zF1zF1zF1zF1zF1zF1zF7zF1zF121k20Ya11_F2_F2_F1_F1_F3_F1Ya12Ya11_F2_F2_F1_F1_F1Ya11_F1_F1
  _F1_F1Ya11Ya12_F3_F1_F1_F1_F1_F1_F1_F1_F2_F3_F1Ya13_F1_F1_F3_F1_FP_F1_F1_F3Ya1AYa11_F1_F1Ya11Ya1
  1Ya11Ya15Ya15Ya11Ya13_F1_F1_F1_F1_F1_F1Ya11_F1_F1_F1_F2_F1_F1_F1_F1_F1_F1_F1_F1_F1_F1_F1_F1_F7_F
  1_F121k20ag11ZG2ZG2ZG1ZG1ZG3ZG1ag12ag11ZG2ZG2ZG1ZG1ZG1ag11ZG1ZG1ZG1ZG1ag11ag12ZG3ZG1ZG1ZG1ZG1ZG1
  ZG1ZG1ZG2ZG3ZG1ag13ZG1ZG1ZG3ZG1ZGPZG1ZG1ZG3ag1Aag11ZG1ZG1ag11ag11ag11ag15ag15ag11ag13ZG1ZG1ZG1ZG
  1ZG1ZG1ag11ZG1ZG1ZG1ZG2ZG1ZG1ZG1ZG1ZG1ZG1ZG1ZG1ZG1ZG1ZG1ZG1ZG7ZG1ZG121k20jg11iG2iG2iG1iG1iG3iG1j
  g12jg11iG2iG2iG1iG1iG1jg11iG1iG1iG1iG1jg11jg12iG3iG1iG1iG1iG1iG1iG1iG1iG2iG3iG1jg13iG1iG1iG3iG1i
  GPiG1iG1iG3jg1Ajg11iG1iG1jg11jg11jg11jg15jg15jg11jg13iG1iG1iG1iG1iG1iG1jg11iG1iG1iG1iG2iG1iG1iG1
  iG1iG1iG1iG1iG1iG1iG1iG1iG1iG7iG1iG121k20lg11kG2kG2kG1kG1kG3kG1lg12lg11kG2kG2kG1kG1kG1lg11kG1kG1
  kG1kG1lg11lg12kG3kG1kG1kG1kG1kG1kG1kG1kG2kG3kG1lg13kG1kG1kG3kG1kGPkG1kG1kG3lg1Alg11kG1kG1lg11lg1
  1lg11lg15lg15lg11lg13kG1kG1kG1kG1kG1kG1lg11kG1kG1kG1kG2kG1kG1kG1kG1kG1kG1kG1kG1kG1kG1kG1kG1kG7kG
  1kG121k20pg11pG2pG2pG1pG1pG3pG1pg12pg11pG2pG2pG1pG1pG1pg11pG1pG1pG1pG1pg11pg12pG3pG1pG1pG1pG1pG1
  pG1pG1pG2pG3pG1pg13pG1pG1pG3pG1pGPpG1pG1pG3pg1Apg11pG1pG1pg11pg11pg11pg15pg15pg11pg13pG1pG1pG1pG
  1pG1pG1pg11pG1pG1pG1pG2pG1pG1pG1pG1pG1pG1pG1pG1pG1pG1pG1pG1pG7pG1pG121k20tg11tG2tG2tG1tG1tG3tG1t
  g12tg11tG2tG2tG1tG1tG1tg11tG1tG1tG1tG1tg11tg12tG3tG1tG1tG1tG1tG1tG1tG1tG2tG3tG1tg13tG1tG1tG3tG1t
  GPtG1tG1tG3tg1Atg11tG1tG1tg11tg11tg11tg15tg15tg11tg13tG1tG1tG1tG1tG1tG1tg11tG1tG1tG1tG2tG1tG1tG1
  tG1tG1tG1tG1tG1tG1tG1tG1tG1tG7tG1tG121k20vg11vG2vG2vG1vG1vG3vG1vg12vg11vG2vG2vG1vG1vG1vg11vG1vG1
  vG1vG1vg11vg12vG3vG1vG1vG1vG1vG1vG1vG1vG2vG3vG1vg13vG1vG1vG3vG1vGPvG1vG1vG3vg1Avg11vG1vG1vg11vg1
  1vg11vg15vg15vg11vg13vG1vG1vG1vG1vG1vG1vg11vG1vG1vG1vG2vG1vG1vG1vG1vG1vG1vG1vG1vG1vG1vG1vG1vG7vG
  1vG121k20yg11yG2yG2yG1yG1yG3yG1yg12yg11yG2yG2yG1yG1yG1yg11yG1yG1yG1yG1yg11yg12yG3yG1yG1yG1yG1yG1
  yG1yG1yG2yG3yG1yg13yG1yG1yG3yG1yGPyG1yG1yG3yg1Ayg11yG1yG1yg11yg11yg11yg15yg15yg11yg13yG1yG1yG1yG
  1yG1yG1yg11yG1yG1yG1yG2yG1yG1yG1yG1yG1yG1yG1yG1yG1yG1yG1yG1yG7yG1yG121k20zg11zG2zG2zG1zG1zG3zG1z
  g12zg11zG2zG2zG1zG1zG1zg11zG1zG1zG1zG1zg11zg12zG3zG1zG1zG1zG1zG1zG1zG1zG2zG3zG1zg13zG1zG1zG3zG1z
  GPzG1zG1zG3zg1Azg11zG1zG1zg11zg11zg11zg15zg15zg11zg13zG1zG1zG1zG1zG1zG1zg11zG1zG1zG1zG2zG1zG1zG1
  zG1zG1zG1zG1zG1zG1zG1zG1zG1zG7zG1zG121k20ga11mH2mH2mH1mH1mH3mH1ga12ga11mH2mH2mH1mH1mH1ga11mH1mH1
  mH1mH1ga11ga12mH3mH1mH1mH1mH1mH1mH1mH1mH2mH3mH1ga13mH1mH1mH3mH1mHPmH1mH1mH3ga1Aga11mH1mH1ga11ga1
  1ga11ga15ga15ga11ga13mH1mH1mH1mH1mH1mH1ga11mH1mH1mH1mH2mH1mH1mH1mH1mH1mH1mH1mH1mH1mH1mH1mH1mH7mH
  1mH121k20sa11yH2yH2yH1yH1yH3yH1sa12sa11yH2yH2yH1yH1yH1sa11yH1yH1yH1yH1sa11sa12yH3yH1yH1yH1yH1yH1
  yH1yH1yH2yH3yH1sa13yH1yH1yH3yH1yHPyH1yH1yH3sa1Asa11yH1yH1sa11sa11sa11sa15sa15sa11sa13yH1yH1yH1yH
  1yH1yH1sa11yH1yH1yH1yH2yH1yH1yH1yH1yH1yH1yH1yH1yH1yH1yH1yH1yH7yH1yH121k20wa11WI2WI2WI1WI1WI3WI1w
  a12wa11WI2WI2WI1WI1WI1wa11WI1WI1WI1WI1wa11wa12WI3WI1WI1WI1WI1WI1WI1WI1WI2WI3WI1wa13WI1WI1WI3WI1W
  IPWI1WI1WI3wa1Awa11WI1WI1wa11wa11wa11wa15wa15wa11wa13WI1WI1WI1WI1WI1WI1wa11WI1WI1WI1WI2WI1WI1WI1
  WI1WI1WI1WI1WI1WI1WI1WI1WI1WI7WI1WI121k20yZ11nF2nF2nF1nF1nF3nF1yZ12yZ11nF2nF2nF1nF1nF1yZ11nF1nF1
  nF1nF1yZ11yZ12nF3nF1nF1nF1nF1nF1nF1nF1nF2nF3nF1yZ13nF1nF1nF3nF1nFPnF1nF1nF3yZ1AyZ11nF1nF1yZ11yZ1
  1yZ11yZ15yZ15yZ11yZ13nF1nF1nF1nF1nF1nF1yZ11nF1nF1nF1nF2nF1nF1nF1nF1nF1nF1nF1nF1nF1nF1nF1nF1nF7nF
  1nF121k20hN1c72c72c71c71c73c71hN2hN1c72c72c71c71c71hN1c71c71c71c71hN1hN2c73c71c71c71c71c71c71c71
  c72c73c71hN3c71c71c73c71c7Pc71c71c73hNAhN1c71c71hN1hN1hN1hN5hN5hN1hN3c71c71c71c71c71c71hN1c71c71
  c71c72c71c71c71c71c71c71c71c71c71c71c71c71c77c71c71210121k20_Z11qF2qF2qF1qF1qF3qF1_Z12_Z11qF2qF2
  qF1qF1qF1_Z11qF1qF1qF1qF1_Z11_Z12qF3qF1qF1qF1qF1qF1qF1qF1qF2qF3qF1_Z13qF1qF1qF3qF1qFPqF1qF1qF3_Z
  1A_Z11qF1qF1_Z11_Z11_Z11_Z15_Z15_Z11_Z13qF1qF1qF1qF1qF1qF1_Z11qF1qF1qF1qF2qF1qF1qF1qF1qF1qF1qF1q
  F1qF1qF1qF1qF1qF7qF1qF121k20zZ11oF2oF2oF1oF1oF3oF1zZ12zZ11oF2oF2oF1oF1oF1zZ11oF1oF1oF1oF1zZ11zZ1
  2oF3oF1oF1oF1oF1oF1oF1oF1oF2oF3oF1zZ13oF1oF1oF3oF1oFPoF1oF1oF3zZ1AzZ11oF1oF1zZ11zZ11zZ11zZ15zZ15
  zZ11zZ13oF1oF1oF1oF1oF1oF1zZ11oF1oF1oF1oF2oF1oF1oF1oF1oF1oF1oF1oF1oF1oF1oF1oF1oF7oF1oF121k20.f11
  vF2vF2vF1vF1vF3vF1.f12.f11vF2vF2vF1vF1vF1.f11vF1vF1vF1vF1.f11.f12vF3vF1vF1vF1vF1vF1vF1vF1vF2vF3v
  F1.f13vF1vF1vF3vF1vFPvF1vF1vF3.f1A.f11vF1vF1.f11.f11.f11.f15.f15.f11.f13vF1vF1vF1vF1vF1vF1.f11vF
  1vF1vF1vF2vF1vF1vF1vF1vF1vF1vF1vF1vF1vF1vF1vF1vF7vF1vF121k20yf11tF2tF2tF1tF1tF3tF1yf12yf11tF2tF2
  tF1tF1tF1yf11tF1tF1tF1tF1yf11yf12tF3tF1tF1tF1tF1tF1tF1tF1tF2tF3tF1yf13tF1tF1tF3tF1tFPtF1tF1tF3yf
  1Ayf11tF1tF1yf11yf11yf11yf15yf15yf11yf13tF1tF1tF1tF1tF1tF1yf11tF1tF1tF1tF2tF1tF1tF1tF1tF1tF1tF1t
  F1tF1tF1tF1tF1tF7tF1tF121k20yR1e72e72e71e71e73e71yR2yR1e72e72e71e71e71yR1e71e71e71e71yR1yR2e73e7
  1e71e71e71e71e71e71e72e73e71yR3e71e71e73e71e7Pe71e71e73yRAyR1e71e71yR1yR1yR1yR5yR5yR1yR3e71e71e7
  1e71e71e71yR1e71e71e71e72e71e71e71e71e71e71e71e71e71e71e71e71e77e71e71210121k20zf11uF2uF2uF1uF1u
  F3uF1zf12zf11uF2uF2uF1uF1uF1zf11uF1uF1uF1uF1zf11zf12uF3uF1uF1uF1uF1uF1uF1uF1uF2uF3uF1zf13uF1uF1u
  F3uF1uFPuF1uF1uF3zf1Azf11uF1uF1zf11zf11zf11zf15zf15zf11zf13uF1uF1uF1uF1uF1uF1zf11uF1uF1uF1uF2uF1
  uF1uF1uF1uF1uF1uF1uF1uF1uF1uF1uF1uF7uF1uF121k20Xa11.F2.F2.F1.F1.F3.F1Xa12Xa11.F2.F2.F1.F1.F1Xa11
  .F1.F1.F1.F1Xa11Xa12.F3.F1.F1.F1.F1.F1.F1.F1.F2.F3.F1Xa13.F1.F1.F3.F1.FP.F1.F1.F3Xa1AXa11.F1.F1X
  a11Xa11Xa11Xa15Xa15Xa11Xa13.F1.F1.F1.F1.F1.F1Xa11.F1.F1.F1.F2.F1.F1.F1.F1.F1.F1.F1.F1.F1.F1.F1.F
  1.F7.F1.F121k20Za11WG2WG2WG1WG1WG3WG1Za12Za11WG2WG2WG1WG1WG1Za11WG1WG1WG1WG1Za11Za12WG3WG1WG1WG1
  WG1WG1WG1WG1WG2WG3WG1Za13WG1WG1WG3WG1WGPWG1WG1WG3Za1AZa11WG1WG1Za11Za11Za11Za15Za15Za11Za13WG1WG
  1WG1WG1WG1WG1Za11WG1WG1WG1WG2WG1WG1WG1WG1WG1WG1WG1WG1WG1WG1WG1WG1WG7WG1WG121k20xa11XI2XI2XI1XI1X
  I3XI1xa12xa11XI2XI2XI1XI1XI1xa11XI1XI1XI1XI1xa11xa12XI3XI1XI1XI1XI1XI1XI1XI1XI2XI3XI1xa13XI1XI1X
  I3XI1XIPXI1XI1XI3xa1Axa11XI1XI1xa11xa11xa11xa15xa15xa11xa13XI1XI1XI1XI1XI1XI1xa11XI1XI1XI1XI2XI1
  XI1XI1XI1XI1XI1XI1XI1XI1XI1XI1XI1XI7XI1XI121k20Zg11YG2YG2YG1YG1YG3YG1Zg12Zg11YG2YG2YG1YG1YG1Zg11
  YG1YG1YG1YG1Zg11Zg12YG3YG1YG1YG1YG1YG1YG1YG1YG2YG3YG1Zg13YG1YG1YG3YG1YGPYG1YG1YG3Zg1AZg11YG1YG1Z
  g11Zg11Zg11Zg15Zg15Zg11Zg13YG1YG1YG1YG1YG1YG1Zg11YG1YG1YG1YG2YG1YG1YG1YG1YG1YG1YG1YG1YG1YG1YG1YG
  1YG7YG1YG121k20_g11WH2WH2WH1WH1WH3WH1_g12_g11WH2WH2WH1WH1WH1_g11WH1WH1WH1WH1_g11_g12WH3WH1WH1WH1
  WH1WH1WH1WH1WH2WH3WH1_g13WH1WH1WH3WH1WHPWH1WH1WH3_g1A_g11WH1WH1_g11_g11_g11_g15_g15_g11_g13WH1WH
  1WH1WH1WH1WH1_g11WH1WH1WH1WH2WH1WH1WH1WH1WH1WH1WH1WH1WH1WH1WH1WH1WH7WH1WH121k20kg11jG2jG2jG1jG1j
  G3jG1kg12kg11jG2jG2jG1jG1jG1kg11jG1jG1jG1jG1kg11kg12jG3jG1jG1jG1jG1jG1jG1jG1jG2jG3jG1kg13jG1jG1j
  G3jG1jGPjG1jG1jG3kg1Akg11jG1jG1kg11kg11kg11kg15kg15kg11kg13jG1jG1jG1jG1jG1jG1kg11jG1jG1jG1jG2jG1
  jG1jG1jG1jG1jG1jG1jG1jG1jG1jG1jG1jG7jG1jG121k20ah11YH2YH2YH1YH1YH3YH1ah12ah11YH2YH2YH1YH1YH1ah11
  YH1YH1YH1YH1ah11ah12YH3YH1YH1YH1YH1YH1YH1YH1YH2YH3YH1ah13YH1YH1YH3YH1YHPYH1YH1YH3ah1Aah11YH1YH1a
  h11ah11ah11ah15ah15ah11ah13YH1YH1YH1YH1YH1YH1ah11YH1YH1YH1YH2YH1YH1YH1YH1YH1YH1YH1YH1YH1YH1YH1YH
  1YH7YH1YH121k20qg11qG2qG2qG1qG1qG3qG1qg12qg11qG2qG2qG1qG1qG1qg11qG1qG1qG1qG1qg11qg12qG3qG1qG1qG1
  qG1qG1qG1qG1qG2qG3qG1qg13qG1qG1qG3qG1qGPqG1qG1qG3qg1Aqg11qG1qG1qg11qg11qg11qg15qg15qg11qg13qG1qG
  1qG1qG1qG1qG1qg11qG1qG1qG1qG2qG1qG1qG1qG1qG1qG1qG1qG1qG1qG1qG1qG1qG7qG1qG121k20bh11ZH2ZH2ZH1ZH1Z
  H3ZH1bh12bh11ZH2ZH2ZH1ZH1ZH1bh11ZH1ZH1ZH1ZH1bh11bh12ZH3ZH1ZH1ZH1ZH1ZH1ZH1ZH1ZH2ZH3ZH1bh13ZH1ZH1Z
  H3ZH1ZHPZH1ZH1ZH3bh1Abh11ZH1ZH1bh11bh11bh11bh15bh15bh11bh13ZH1ZH1ZH1ZH1ZH1ZH1bh11ZH1ZH1ZH1ZH2ZH1
  ZH1ZH1ZH1ZH1ZH1ZH1ZH1ZH1ZH1ZH1ZH1ZH7ZH1ZH121k20xD1Y42Y42Y41Y41Y43Y41xD2xD1Y42Y42Y41Y41Y41xD1Y41Y
  41Y41Y41xD1xD2Y43Y41Y41Y41Y41Y41Y41Y41Y42Y43Y41xD3Y41Y41Y43Y41Y4PY41Y41Y43xDAxD1Y41Y41xD1xD1xD1x
  D5xD5xD1xD3Y41Y41Y41Y41Y41Y41xD1Y41Y41Y41Y42Y41Y41Y41Y41Y41Y41Y41Y41Y41Y41Y41Y41Y47Y41Y412101210
  62r17C0Y1vm2c8dX51dX51dX51dX51dX5122k20ia11oH2oH2oH1oH1oH3oH1ia12ia11oH2oH2oH1oH1oH1ia11oH1oH1oH
  1oH1ia11ia12oH3oH1oH1oH1oH1oH1oH1oH1oH2oH3oH1ia13oH1oH1oH3oH1oHPoH1oH1oH3ia1Aia11oH1oH1ia11ia11i
  a11ia15ia15ia11ia13oH1oH1oH1oH1oH1oH1ia11oH1oH1oH1oH2oH1oH1oH1oH1oH1oH1oH1oH1oH1oH1oH1oH1oH7oH1o
  H121k20ta11zH2zH2zH1zH1zH3zH1ta12ta11zH2zH2zH1zH1zH1ta11zH1zH1zH1zH1ta11ta12zH3zH1zH1zH1zH1zH1zH
  1zH1zH2zH3zH1ta13zH1zH1zH3zH1zHPzH1zH1zH3ta1Ata11zH1zH1ta11ta11ta11ta15ta15ta11ta13zH1zH1zH1zH1z
  H1zH1ta11zH1zH1zH1zH2zH1zH1zH1zH1zH1zH1zH1zH1zH1zH1zH1zH1zH7zH1zH121k20ua11.H2.H2.H1.H1.H3.H1ua1
  2ua11.H2.H2.H1.H1.H1ua11.H1.H1.H1.H1ua11ua12.H3.H1.H1.H1.H1.H1.H1.H1.H2.H3.H1ua13.H1.H1.H3.H1.HP
  .H1.H1.H3ua1Aua11.H1.H1ua11ua11ua11ua15ua15ua11ua13.H1.H1.H1.H1.H1.H1ua11.H1.H1.H1.H2.H1.H1.H1.H
  1.H1.H1.H1.H1.H1.H1.H1.H1.H7.H1.H121k20ya11YI2YI2YI1YI1YI3YI1ya12ya11YI2YI2YI1YI1YI1ya11YI1YI1YI
  1YI1ya11ya12YI3YI1YI1YI1YI1YI1YI1YI1YI2YI3YI1ya13YI1YI1YI3YI1YIPYI1YI1YI3ya1Aya11YI1YI1ya11ya11y
  a11ya15ya15ya11ya13YI1YI1YI1YI1YI1YI1ya11YI1YI1YI1YI2YI1YI1YI1YI1YI1YI1YI1YI1YI1YI1YI1YI1YI7YI1Y
  I121k20.Z11pF2pF2pF1pF1pF3pF1.Z12.Z11pF2pF2pF1pF1pF1.Z11pF1pF1pF1pF1.Z11.Z12pF3pF1pF1pF1pF1pF1pF
  1pF1pF2pF3pF1.Z13pF1pF1pF3pF1pFPpF1pF1pF3.Z1A.Z11pF1pF1.Z11.Z11.Z11.Z15.Z15.Z11.Z13pF1pF1pF1pF1p
  F1pF1.Z11pF1pF1pF1pF2pF1pF1pF1pF1pF1pF1pF1pF1pF1pF1pF1pF1pF7pF1pF121k20uD1_32_32_31_31_33_31uD2u
  D1_32_32_31_31_31uD1_31_31_31_31uD1uD2_33_31_31_31_31_31_31_31_32_33_31uD3_31_31_33_31_3P_31_31_
  33uDAuD1_31_31uD1uD1uD1uD5uD5uD1uD3_31_31_31_31_31_31uD1_31_31_31_32_31_31_31_31_31_31_31_31_31_
  31_31_31_37_31_312101210121k20bb11hI2hI2hI1hI1hI3hI1bb12bb11hI2hI2hI1hI1hI1bb11hI1hI1hI1hI1bb11b
  b12hI3hI1hI1hI1hI1hI1hI1hI1hI2hI3hI1bb13hI1hI1hI3hI1hIPhI1hI1hI3bb1Abb11hI1hI1bb11bb11bb11bb15bb
  15bb11bb13hI1hI1hI1hI1hI1hI1bb11hI1hI1hI1hI2hI1hI1hI1hI1hI1hI1hI1hI1hI1hI1hI1hI1hI7hI1hI121k20yK
  1W42W42W41W41W43W41yK2yK1W42W42W41W41W41yK1W41W41W41W41yK1yK2W43W41W41W41W41W41W41W41W42W43W41yK
  3W41W41W43W41W4PW41W41W43yKAyK1W41W41yK1yK1yK1yK5yK5yK1yK3W41W41W41W41W41W41yK1W41W41W41W42W41W4
  1W41W41W41W41W41W41W41W41W41W41W47W41W41210121k20_f11wF2wF2wF1wF1wF3wF1_f12_f11wF2wF2wF1wF1wF1_f
  11wF1wF1wF1wF1_f11_f12wF3wF1wF1wF1wF1wF1wF1wF1wF2wF3wF1_f13wF1wF1wF3wF1wFPwF1wF1wF3_f1A_f11wF1wF
  1_f11_f11_f11_f15_f15_f11_f13wF1wF1wF1wF1wF1wF1_f11wF1wF1wF1wF2wF1wF1wF1wF1wF1wF1wF1wF1wF1wF1wF1
  wF1wF7wF1wF1220121k20ra11xH2xH2xH1xH1xH3xH1ra12ra11xH2xH2xH1xH1xH1ra11xH1xH1xH1xH1ra11ra12xH3xH1
  xH1xH1xH1xH1xH1xH1xH2xH3xH1ra13xH1xH1xH3xH1xHPxH1xH1xH3ra1Ara11xH1xH1ra11ra11ra11ra15ra15ra11ra1
  3xH1xH1xH1xH1xH1xH1ra11xH1xH1xH1xH2xH1xH1xH1xH1xH1xH1xH1xH1xH1xH1xH1xH1xH7xH1xH121k20zR1f72f72f7
  1f71f73f71zR2zR1f72f72f71f71f71zR1f71f71f71f71zR1zR2f73f71f71f71f71f71f71f71f72f73f71zR3f71f71f7
  3f71f7Pf71f71f73zRAzR1f71f71zR1zR1zR1zR5zR5zR1zR3f71f71f71f71f71f71zR1f71f71f71f72f71f71f71f71f7
  1f71f71f71f71f71f71f71f77f71f71210121k20Yg11XG2XG2XG1XG1XG3XG1Yg12Yg11XG2XG2XG1XG1XG1Yg11XG1XG1X
  G1XG1Yg11Yg12XG3XG1XG1XG1XG1XG1XG1XG1XG2XG3XG1Yg13XG1XG1XG3XG1XGPXG1XG1XG3Yg1AYg11XG1XG1Yg11Yg11
  Yg11Yg15Yg15Yg11Yg13XG1XG1XG1XG1XG1XG1Yg11XG1XG1XG1XG2XG1XG1XG1XG1XG1XG1XG1XG1XG1XG1XG1XG1XG7XG1
  XG121k20Wh11XH2XH2XH1XH1XH3XH1Wh12Wh11XH2XH2XH1XH1XH1Wh11XH1XH1XH1XH1Wh11Wh12XH3XH1XH1XH1XH1XH1X
  H1XH1XH2XH3XH1Wh13XH1XH1XH3XH1XHPXH1XH1XH3Wh1AWh11XH1XH1Wh11Wh11Wh11Wh15Wh15Wh11Wh13XH1XH1XH1XH1
  XH1XH1Wh11XH1XH1XH1XH2XH1XH1XH1XH1XH1XH1XH1XH1XH1XH1XH1XH1XH7XH1XH121k20mg11mG2mG2mG1mG1mG3mG1mg
  12mg11mG2mG2mG1mG1mG1mg11mG1mG1mG1mG1mg11mg12mG3mG1mG1mG1mG1mG1mG1mG1mG2mG3mG1mg13mG1mG1mG3mG1mG
  PmG1mG1mG3mg1Amg11mG1mG1mg11mg11mg11mg15mg15mg11mg13mG1mG1mG1mG1mG1mG1mg11mG1mG1mG1mG2mG1mG1mG1m
  G1mG1mG1mG1mG1mG1mG1mG1mG1mG7mG1mG121k20ch11aH2aH2aH1aH1aH3aH1ch12ch11aH2aH2aH1aH1aH1ch11aH1aH1a
  H1aH1ch11ch12aH3aH1aH1aH1aH1aH1aH1aH1aH2aH3aH1ch13aH1aH1aH3aH1aHPaH1aH1aH3ch1Ach11aH1aH1ch11ch11
  ch11ch15ch15ch11ch13aH1aH1aH1aH1aH1aH1ch11aH1aH1aH1aH2aH1aH1aH1aH1aH1aH1aH1aH1aH1aH1aH1aH1aH7aH1
  aH121k20dh11bH2bH2bH1bH1bH3bH1dh12dh11bH2bH2bH1bH1bH1dh11bH1bH1bH1bH1dh11dh12bH3bH1bH1bH1bH1bH1b
  H1bH1bH2bH3bH1dh13bH1bH1bH3bH1bHPbH1bH1bH3dh1Adh11bH1bH1dh11dh11dh11dh15dh15dh11dh13bH1bH1bH1bH1
  bH1bH1dh11bH1bH1bH1bH2bH1bH1bH1bH1bH1bH1bH1bH1bH1bH1bH1bH1bH7bH1bH121k20yD1Z42Z42Z41Z41Z43Z41yD2
  yD1Z42Z42Z41Z41Z41yD1Z41Z41Z41Z41yD1yD2Z43Z41Z41Z41Z41Z41Z41Z41Z42Z43Z41yD3Z41Z41Z43Z41Z4PZ41Z41
  Z43yDAyD1Z41Z41yD1yD1yD1yD5yD5yD1yD3Z41Z41Z41Z41Z41Z41yD1Z41Z41Z41Z42Z41Z41Z41Z41Z41Z41Z41Z41Z41
  Z41Z41Z41Z47Z41Z412101210121k20aa11hH2hH2hH1hH1hH3hH1aa12aa11hH2hH2hH1hH1hH1aa11hH1hH1hH1hH1aa11
  aa12hH3hH1hH1hH1hH1hH1hH1hH1hH2hH3hH1aa13hH1hH1hH3hH1hHPhH1hH1hH3aa1Aaa11hH1hH1aa11aa11aa11aa15a
  a15aa11aa13hH1hH1hH1hH1hH1hH1aa11hH1hH1hH1hH2hH1hH1hH1hH1hH1hH1hH1hH1hH1hH1hH1hH1hH7hH1hH62Q1k1x
  r3122k20ja11pH2pH2pH1pH1pH3pH1ja12ja11pH2pH2pH1pH1pH1ja11pH1pH1pH1pH1ja11ja12pH3pH1pH1pH1pH1pH1p
  H1pH1pH2pH3pH1ja13pH1pH1pH3pH1pHPpH1pH1pH3ja1Aja11pH1pH1ja11ja11ja11ja15ja15ja11ja13pH1pH1pH1pH1
  pH1pH1ja11pH1pH1pH1pH2pH1pH1pH1pH1pH1pH1pH1pH1pH1pH1pH1pH1pH7pH1pH121k20ka11qH2qH2qH1qH1qH3qH1ka
  12ka11qH2qH2qH1qH1qH1ka11qH1qH1qH1qH1ka11ka12qH3qH1qH1qH1qH1qH1qH1qH1qH2qH3qH1ka13qH1qH1qH3qH1qH
  PqH1qH1qH3ka1Aka11qH1qH1ka11ka11ka11ka15ka15ka11ka13qH1qH1qH1qH1qH1qH1ka11qH1qH1qH1qH2qH1qH1qH1q
  H1qH1qH1qH1qH1qH1qH1qH1qH1qH7qH1qH121k20va11_H2_H2_H1_H1_H3_H1va12va11_H2_H2_H1_H1_H1va11_H1_H1_
  H1_H1va11va12_H3_H1_H1_H1_H1_H1_H1_H1_H2_H3_H1va13_H1_H1_H3_H1_HP_H1_H1_H3va1Ava11_H1_H1va11va11
  va11va15va15va11va13_H1_H1_H1_H1_H1_H1va11_H1_H1_H1_H2_H1_H1_H1_H1_H1_H1_H1_H1_H1_H1_H1_H1_H7_H1
  _H121k20.a11aI2aI2aI1aI1aI3aI1.a12.a11aI2aI2aI1aI1aI1.a11aI1aI1aI1aI1.a11.a12aI3aI1aI1aI1aI1aI1a
  I1aI1aI2aI3aI1.a13aI1aI1aI3aI1aIPaI1aI1aI3.a1A.a11aI1aI1.a11.a11.a11.a15.a15.a11.a13aI1aI1aI1aI1
  aI1aI1.a11aI1aI1aI1aI2aI1aI1aI1aI1aI1aI1aI1aI1aI1aI1aI1aI1aI7aI1aI121k20za11ZI2ZI2ZI1ZI1ZI3ZI1za
  12za11ZI2ZI2ZI1ZI1ZI1za11ZI1ZI1ZI1ZI1za11za12ZI3ZI1ZI1ZI1ZI1ZI1ZI1ZI1ZI2ZI3ZI1za13ZI1ZI1ZI3ZI1ZI
  PZI1ZI1ZI3za1Aza11ZI1ZI1za11za11za11za15za15za11za13ZI1ZI1ZI1ZI1ZI1ZI1za11ZI1ZI1ZI1ZI2ZI1ZI1ZI1Z
  I1ZI1ZI1ZI1ZI1ZI1ZI1ZI1ZI1ZI7ZI1ZI121k20iN1d72d72d71d71d73d71iN2iN1d72d72d71d71d71iN1d71d71d71d7
  1iN1iN2d73d71d71d71d71d71d71d71d72d73d71iN3d71d71d73d71d7Pd71d71d73iNAiN1d71d71iN1iN1iN1iN5iN5iN
  1iN3d71d71d71d71d71d71iN1d71d71d71d72d71d71d71d71d71d71d71d71d71d71d71d71d77d71d71210121k20eh11c
  H2cH2cH1cH1cH3cH1eh12eh11cH2cH2cH1cH1cH1eh11cH1cH1cH1cH1eh11eh12cH3cH1cH1cH1cH1cH1cH1cH1cH2cH3cH
  1eh13cH1cH1cH3cH1cHPcH1cH1cH3eh1Aeh11cH1cH1eh11eh11eh11eh15eh15eh11eh13cH1cH1cH1cH1cH1cH1eh11cH1
  cH1cH1cH2cH1cH1cH1cH1cH1cH1cH1cH1cH1cH1cH1cH1cH7cH1cH121k20la11rH2rH2rH1rH1rH3rH1la12la11rH2rH2r
  H1rH1rH1la11rH1rH1rH1rH1la11la12rH3rH1rH1rH1rH1rH1rH1rH1rH2rH3rH1la13rH1rH1rH3rH1rHPrH1rH1rH3la1
  Ala11rH1rH1la11la11la11la15la15la11la13rH1rH1rH1rH1rH1rH1la11rH1rH1rH1rH2rH1rH1rH1rH1rH1rH1rH1rH
  1rH1rH1rH1rH1rH7rH1rH121k20cb11iI2iI2iI1iI1iI3iI1cb12cb11iI2iI2iI1iI1iI1cb11iI1iI1iI1iI1cb11cb12
  iI3iI1iI1iI1iI1iI1iI1iI1iI2iI3iI1cb13iI1iI1iI3iI1iIPiI1iI1iI3cb1Acb11iI1iI1cb11cb11cb11cb15cb15c
  b11cb13iI1iI1iI1iI1iI1iI1cb11iI1iI1iI1iI2iI1iI1iI1iI1iI1iI1iI1iI1iI1iI1iI1iI1iI7iI1iI121k20.R1g7
  2g72g71g71g73g71.R2.R1g72g72g71g71g71.R1g71g71g71g71.R1.R2g73g71g71g71g71g71g71g71g72g73g71.R3g7
  1g71g73g71g7Pg71g71g73.RA.R1g71g71.R1.R1.R1.R5.R5.R1.R3g71g71g71g71g71g71.R1g71g71g71g72g71g71g7
  1g71g71g71g71g71g71g71g71g71g77g71g71210121k20bg11aG2aG2aG1aG1aG3aG1bg12bg11aG2aG2aG1aG1aG1bg11a
  G1aG1aG1aG1bg11bg12aG3aG1aG1aG1aG1aG1aG1aG1aG2aG3aG1bg13aG1aG1aG3aG1aGPaG1aG1aG3bg1Abg11aG1aG1bg
  11bg11bg11bg15bg15bg11bg13aG1aG1aG1aG1aG1aG1bg11aG1aG1aG1aG2aG1aG1aG1aG1aG1aG1aG1aG1aG1aG1aG1aG1
  aG7aG1aG121k20fh11dH2dH2dH1dH1dH3dH1fh12fh11dH2dH2dH1dH1dH1fh11dH1dH1dH1dH1fh11fh12dH3dH1dH1dH1d
  H1dH1dH1dH1dH2dH3dH1fh13dH1dH1dH3dH1dHPdH1dH1dH3fh1Afh11dH1dH1fh11fh11fh11fh15fh15fh11fh13dH1dH1
  dH1dH1dH1dH1fh11dH1dH1dH1dH2dH1dH1dH1dH1dH1dH1dH1dH1dH1dH1dH1dH1dH7dH1dH121k20ba11iH2iH2iH1iH1iH
  3iH1ba12ba11iH2iH2iH1iH1iH1ba11iH1iH1iH1iH1ba11ba12iH3iH1iH1iH1iH1iH1iH1iH1iH2iH3iH1ba13iH1iH1iH
  3iH1iHPiH1iH1iH3ba1Aba11iH1iH1ba11ba11ba11ba15ba15ba11ba13iH1iH1iH1iH1iH1iH1ba11iH1iH1iH1iH2iH1i
  H1iH1iH1iH1iH1iH1iH1iH1iH1iH1iH1iH7iH1iH121k20ca11jH2jH2jH1jH1jH3jH1ca12ca11jH2jH2jH1jH1jH1ca11j
  H1jH1jH1jH1ca11ca12jH3jH1jH1jH1jH1jH1jH1jH1jH2jH3jH1ca13jH1jH1jH3jH1jHPjH1jH1jH3ca1Aca11jH1jH1ca
  11ca11ca11ca15ca15ca11ca13jH1jH1jH1jH1jH1jH1ca11jH1jH1jH1jH2jH1jH1jH1jH1jH1jH1jH1jH1jH1jH1jH1jH1
  jH7jH1jH121k20ma11sH2sH2sH1sH1sH3sH1ma12ma11sH2sH2sH1sH1sH1ma11sH1sH1sH1sH1ma11ma12sH3sH1sH1sH1s
  H1sH1sH1sH1sH2sH3sH1ma13sH1sH1sH3sH1sHPsH1sH1sH3ma1Ama11sH1sH1ma11ma11ma11ma15ma15ma11ma13sH1sH1
  sH1sH1sH1sH1ma11sH1sH1sH1sH2sH1sH1sH1sH1sH1sH1sH1sH1sH1sH1sH1sH1sH7sH1sH121k20Yb11eI2eI2eI1eI1eI
  3eI1Yb12Yb11eI2eI2eI1eI1eI1Yb11eI1eI1eI1eI1Yb11Yb12eI3eI1eI1eI1eI1eI1eI1eI1eI2eI3eI1Yb13eI1eI1eI
  3eI1eIPeI1eI1eI3Yb1AYb11eI1eI1Yb11Yb11Yb11Yb15Yb15Yb11Yb13eI1eI1eI1eI1eI1eI1Yb11eI1eI1eI1eI2eI1e
  I1eI1eI1eI1eI1eI1eI1eI1eI1eI1eI1eI7eI1eI121k20Wb11cI2cI2cI1cI1cI3cI1Wb12Wb11cI2cI2cI1cI1cI1Wb11c
  I1cI1cI1cI1Wb11Wb12cI3cI1cI1cI1cI1cI1cI1cI1cI2cI3cI1Wb13cI1cI1cI3cI1cIPcI1cI1cI3Wb1AWb11cI1cI1Wb
  11Wb11Wb11Wb15Wb15Wb11Wb13cI1cI1cI1cI1cI1cI1Wb11cI1cI1cI1cI2cI1cI1cI1cI1cI1cI1cI1cI1cI1cI1cI1cI1
  cI7cI1cI121k20_a11bI2bI2bI1bI1bI3bI1_a12_a11bI2bI2bI1bI1bI1_a11bI1bI1bI1bI1_a11_a12bI3bI1bI1bI1b
  I1bI1bI1bI1bI2bI3bI1_a13bI1bI1bI3bI1bIPbI1bI1bI3_a1A_a11bI1bI1_a11_a11_a11_a15_a15_a11_a13bI1bI1
  bI1bI1bI1bI1_a11bI1bI1bI1bI2bI1bI1bI1bI1bI1bI1bI1bI1bI1bI1bI1bI1bI7bI1bI121k20Xb11dI2dI2dI1dI1dI
  3dI1Xb12Xb11dI2dI2dI1dI1dI1Xb11dI1dI1dI1dI1Xb11Xb12dI3dI1dI1dI1dI1dI1dI1dI1dI2dI3dI1Xb13dI1dI1dI
  3dI1dIPdI1dI1dI3Xb1AXb11dI1dI1Xb11Xb11Xb11Xb15Xb15Xb11Xb13dI1dI1dI1dI1dI1dI1Xb11dI1dI1dI1dI2dI1d
  I1dI1dI1dI1dI1dI1dI1dI1dI1dI1dI1dI7dI1dI121k20gh11eH2eH2eH1eH1eH3eH1gh12gh11eH2eH2eH1eH1eH1gh11e
  H1eH1eH1eH1gh11gh12eH3eH1eH1eH1eH1eH1eH1eH1eH2eH3eH1gh13eH1eH1eH3eH1eHPeH1eH1eH3gh1Agh11eH1eH1gh
  11gh11gh11gh15gh15gh11gh13eH1eH1eH1eH1eH1eH1gh11eH1eH1eH1eH2eH1eH1eH1eH1eH1eH1eH1eH1eH1eH1eH1eH1
  eH7eH1eH121k20hh11fH2fH2fH1fH1fH3fH1hh12hh11fH2fH2fH1fH1fH1hh11fH1fH1fH1fH1hh11hh12fH3fH1fH1fH1f
  H1fH1fH1fH1fH2fH3fH1hh13fH1fH1fH3fH1fHPfH1fH1fH3hh1Ahh11fH1fH1hh11hh11hh11hh15hh15hh11hh13fH1fH1
  fH1fH1fH1fH1hh11fH1fH1fH1fH2fH1fH1fH1fH1fH1fH1fH1fH1fH1fH1fH1fH1fH7fH1fH121k20na11tH2tH2tH1tH1tH
  3tH1na12na11tH2tH2tH1tH1tH1na11tH1tH1tH1tH1na11na12tH3tH1tH1tH1tH1tH1tH1tH1tH2tH3tH1na13tH1tH1tH
  3tH1tHPtH1tH1tH3na1Ana11tH1tH1na11na11na11na15na15na11na13tH1tH1tH1tH1tH1tH1na11tH1tH1tH1tH2tH1t
  H1tH1tH1tH1tH1tH1tH1tH1tH1tH1tH1tH7tH1tH121k20oa11uH2uH2uH1uH1uH3uH1oa12oa11uH2uH2uH1uH1uH1oa11u
  H1uH1uH1uH1oa11oa12uH3uH1uH1uH1uH1uH1uH1uH1uH2uH3uH1oa13uH1uH1uH3uH1uHPuH1uH1uH3oa1Aoa11uH1uH1oa
  11oa11oa11oa15oa15oa11oa13uH1uH1uH1uH1uH1uH1oa11uH1uH1uH1uH2uH1uH1uH1uH1uH1uH1uH1uH1uH1uH1uH1uH1
  uH7uH1uH121k20cg11bG2bG2bG1bG1bG3bG1cg12cg11bG2bG2bG1bG1bG1cg11bG1bG1bG1bG1cg11cg12bG3bG1bG1bG1b
  G1bG1bG1bG1bG2bG3bG1cg13bG1bG1bG3bG1bGPbG1bG1bG3cg1Acg11bG1bG1cg11cg11cg11cg15cg15cg11cg13bG1bG1
  bG1bG1bG1bG1cg11bG1bG1bG1bG2bG1bG1bG1bG1bG1bG1bG1bG1bG1bG1bG1bG1bG7bG1bG121k20dg11cG2cG2cG1cG1cG
  3cG1dg12dg11cG2cG2cG1cG1cG1dg11cG1cG1cG1cG1dg11dg12cG3cG1cG1cG1cG1cG1cG1cG1cG2cG3cG1dg13cG1cG1cG
  3cG1cGPcG1cG1cG3dg1Adg11cG1cG1dg11dg11dg11dg15dg15dg11dg13cG1cG1cG1cG1cG1cG1dg11cG1cG1cG1cG2cG1c
  G1cG1cG1cG1cG1cG1cG1cG1cG1cG1cG1cG7cG1cG121k20eg11dG2dG2dG1dG1dG3dG1eg12eg11dG2dG2dG1dG1dG1eg11d
  G1dG1dG1dG1eg11eg12dG3dG1dG1dG1dG1dG1dG1dG1dG2dG3dG1eg13dG1dG1dG3dG1dGPdG1dG1dG3eg1Aeg11dG1dG1eg
  11eg11eg11eg15eg15eg11eg13dG1dG1dG1dG1dG1dG1eg11dG1dG1dG1dG2dG1dG1dG1dG1dG1dG1dG1dG1dG1dG1dG1dG1
  dG7dG1dG121k20da11kH2kH2kH1kH1kH3kH1da12da11kH2kH2kH1kH1kH1da11kH1kH1kH1kH1da11da12kH3kH1kH1kH1k
  H1kH1kH1kH1kH2kH3kH1da13kH1kH1kH3kH1kHPkH1kH1kH3da1Ada11kH1kH1da11da11da11da15da15da11da13kH1kH1
  kH1kH1kH1kH1da11kH1kH1kH1kH2kH1kH1kH1kH1kH1kH1kH1kH1kH1kH1kH1kH1kH7kH1kH121k20ha11nH2nH2nH1nH1nH
  3nH1ha12ha11nH2nH2nH1nH1nH1ha11nH1nH1nH1nH1ha11ha12nH3nH1nH1nH1nH1nH1nH1nH1nH2nH3nH1ha13nH1nH1nH
  3nH1nHPnH1nH1nH3ha1Aha11nH1nH1ha11ha11ha11ha15ha15ha11ha13nH1nH1nH1nH1nH1nH1ha11nH1nH1nH1nH2nH1n
  H1nH1nH1nH1nH1nH1nH1nH1nH1nH1nH1nH7nH1nH121k20Zb11fI2fI2fI1fI1fI3fI1Zb12Zb11fI2fI2fI1fI1fI1Zb11f
  I1fI1fI1fI1Zb11Zb12fI3fI1fI1fI1fI1fI1fI1fI1fI2fI3fI1Zb13fI1fI1fI3fI1fIPfI1fI1fI3Zb1AZb11fI1fI1Zb
  11Zb11Zb11Zb15Zb15Zb11Zb13fI1fI1fI1fI1fI1fI1Zb11fI1fI1fI1fI2fI1fI1fI1fI1fI1fI1fI1fI1fI1fI1fI1fI1
  fI7fI1fI121k20ab11gI2gI2gI1gI1gI3gI1ab12ab11gI2gI2gI1gI1gI1ab11gI1gI1gI1gI1ab11ab12gI3gI1gI1gI1g
  I1gI1gI1gI1gI2gI3gI1ab13gI1gI1gI3gI1gIPgI1gI1gI3ab1Aab11gI1gI1ab11ab11ab11ab15ab15ab11ab13gI1gI1
  gI1gI1gI1gI1ab11gI1gI1gI1gI2gI1gI1gI1gI1gI1gI1gI1gI1gI1gI1gI1gI1gI7gI1gI121k20ih11gH2gH2gH1gH1gH
  3gH1ih12ih11gH2gH2gH1gH1gH1ih11gH1gH1gH1gH1ih11ih12gH3gH1gH1gH1gH1gH1gH1gH1gH2gH3gH1ih13gH1gH1gH
  3gH1gHPgH1gH1gH3ih1Aih11gH1gH1ih11ih11ih11ih15ih15ih11ih13gH1gH1gH1gH1gH1gH1ih11gH1gH1gH1gH2gH1g
  H1gH1gH1gH1gH1gH1gH1gH1gH1gH1gH1gH7gH1gH121k20pa11vH2vH2vH1vH1vH3vH1pa12pa11vH2vH2vH1vH1vH1pa11v
  H1vH1vH1vH1pa11pa12vH3vH1vH1vH1vH1vH1vH1vH1vH2vH3vH1pa13vH1vH1vH3vH1vHPvH1vH1vH3pa1Apa11vH1vH1pa
  11pa11pa11pa15pa15pa11pa13vH1vH1vH1vH1vH1vH1pa11vH1vH1vH1vH2vH1vH1vH1vH1vH1vH1vH1vH1vH1vH1vH1vH1
  vH7vH1vH121k20fg11eG2eG2eG1eG1eG3eG1fg12fg11eG2eG2eG1eG1eG1fg11eG1eG1eG1eG1fg11fg12eG3eG1eG1eG1e
  G1eG1eG1eG1eG2eG3eG1fg13eG1eG1eG3eG1eGPeG1eG1eG3fg1Afg11eG1eG1fg11fg11fg11fg15fg15fg11fg13eG1eG1
  eG1eG1eG1eG1fg11eG1eG1eG1eG2eG1eG1eG1eG1eG1eG1eG1eG1eG1eG1eG1eG1eG7eG1eG121k20gg11fG2fG2fG1fG1fG
  3fG1gg12gg11fG2fG2fG1fG1fG1gg11fG1fG1fG1fG1gg11gg12fG3fG1fG1fG1fG1fG1fG1fG1fG2fG3fG1gg13fG1fG1fG
  3fG1fGPfG1fG1fG3gg1Agg11fG1fG1gg11gg11gg11gg15gg15gg11gg13fG1fG1fG1fG1fG1fG1gg11fG1fG1fG1fG2fG1f
  G1fG1fG1fG1fG1fG1fG1fG1fG1fG1fG1fG7fG1fG121k20hg11gG2gG2gG1gG1gG3gG1hg12hg11gG2gG2gG1gG1gG1hg11g
  G1gG1gG1gG1hg11hg12gG3gG1gG1gG1gG1gG1gG1gG1gG2gG3gG1hg13gG1gG1gG3gG1gGPgG1gG1gG3hg1Ahg11gG1gG1hg
  11hg11hg11hg15hg15hg11hg13gG1gG1gG1gG1gG1gG1hg11gG1gG1gG1gG2gG1gG1gG1gG1gG1gG1gG1gG1gG1gG1gG1gG1
  gG7gG1gG121k20ig11hG2hG2hG1hG1hG3hG1ig12ig11hG2hG2hG1hG1hG1ig11hG1hG1hG1hG1ig11ig12hG3hG1hG1hG1h
  G1hG1hG1hG1hG2hG3hG1ig13hG1hG1hG3hG1hGPhG1hG1hG3ig1Aig11hG1hG1ig11ig11ig11ig15ig15ig11ig13hG1hG1
  hG1hG1hG1hG1ig11hG1hG1hG1hG2hG1hG1hG1hG1hG1hG1hG1hG1hG1hG1hG1hG1hG7hG1hG12iMU4050309r790H050J010
  10101010101040101r7101010101010101010l10J02012hMU4050309s790H050J01010101010101040101s7101010101
  010101010l10J02012l53C0o401012l53C0o401062h11k1am26211k1bn36211k1zn26211k1_v36211k1ul26211k1fk36
  211k1wp26211k1dx36211k10621R1mY2q1jBH06_B2WCa1qY28kB3XCDf8CrY21g82s9Ksh4q2nd530h1kX31vb31Y_42wc3
  10101010108Z_4Fyz25.z46215l9jw21kw21fx22e_2Dfx26213n9qx22j_2Dqx2120h21vJ2vJ3vJ1vJ3vJ1xj13vJ2vJ2v
  J1vJ1vJ1xj12vJ1vJ1vJ1xj11xj12vJ3vJ1vJ1vJ1vJ1vJ1vJ1vJ1vJ5vJ1xj13vJ1vJ1vJ3vJ1vJPvJ1vJ1vJ3xj1Axj11v
  J1vJ1xj11xj11xj11xj1411xj15xj11xj13vJ1vJ1vJ1vJ1vJ1vJ1xj11vJ1vJ1vJ1vJ2vJ1vJ1vJ1vJ1vJ1vJ1vJ1vJ1vJ1
  vJ1vJ1vJ1vJ7vJ1vJG1121f21wJ2wJ3wJ1wJ3wJ1yj13wJ2wJ2wJ1wJ1wJ1yj12wJ1wJ1wJ1yj11yj12wJ3wJ1wJ1wJ1wJ1w
  J1wJ1wJ1wJ5wJ1yj13wJ1wJ1wJ3wJ1wJPwJ1wJ1wJ3yj1Ayj11wJ1wJ1yj11yj11yj11yj15yj15yj11yj13wJ1wJ1wJ1wJ1
  wJ1wJ1yj11wJ1wJ1wJ1wJ2wJ1wJ1wJ1wJ1wJ1wJ1wJ1wJ1wJ1wJ1wJ1wJ1wJ7wJ1wJ121f21xJ2xJ3xJ1xJ3xJ1zj13xJ2xJ
  2xJ1xJ1xJ1zj12xJ1xJ1xJ1zj11zj12xJ3xJ1xJ1xJ1xJ1xJ1xJ1xJ1xJ5xJ1zj13xJ1xJ1xJ3xJ1xJPxJ1xJ1xJ3zj1Azj1
  1xJ1xJ1zj11zj11zj11zj15zj15zj11zj13xJ1xJ1xJ1xJ1xJ1xJ1zj11xJ1xJ1xJ1xJ2xJ1xJ1xJ1xJ1xJ1xJ1xJ1xJ1xJ1
  xJ1xJ1xJ1xJ7xJ1xJ121f21t22t23t21t23t21tI3t22t22t21t21t21tI2t21t21t21tI1tI2t23t21t21t21t21t21t21t
  21t25t21tI3t21t21t23t21t2Pt21t21t23tIAtI1t21t21tI1tI1tI1tI5tI5tI1tI3t21t21t21t21t21t21tI1t21t21t
  21t22t21t21t21t21t21t21t21t21t21t21t21t21t27t21t2121012101210121f21yJ2yJ3yJ1yJ3yJ1.j13yJ2yJ2yJ1y
  J1yJ1.j12yJ1yJ1yJ1.j11.j12yJ3yJ1yJ1yJ1yJ1yJ1yJ1yJ1yJ5yJ1.j13yJ1yJ1yJ3yJ1yJPyJ1yJ1yJ3.j1A.j11yJ1y
  J1.j11.j11.j11.j15.j15.j11.j13yJ1yJ1yJ1yJ1yJ1yJ1.j11yJ1yJ1yJ1yJ2yJ1yJ1yJ1yJ1yJ1yJ1yJ1yJ1yJ1yJ1yJ
  1yJ1yJ7yJ1yJ629d21vY23te17yd13ae16Ze16Yf1JXf18wh1Nhe12ie11vQ1vQFy44ye11ze15we15ue14xY22rC1rC1rC1
  rC3mh13je17y41y41y41y41y41y41Yi1CsY21Wi12ud11ee11y41y41pe1Gfy4k1dn5SXf3Ank5UYb3Gaa31.e31vY42rh36
  Zf31af32bf31Zf31bf31bf31wY46bf31bf31bf32bf31cf31bf31bf31bf31Yc32bf33cc56bf31bf31Zf31bf31bf31Zf31
  2q4600508090J0s30622d21pf23ed17fc13rc16We16rd1Jpd18kf1Nzc12.c11uP1uPFp44a31b35hd15fd14sf22hC1hC1
  hC1hC3ef13_c17p41p41p41p41p41p41of1CYi21mf12Yc11vc11p41p41Zd1Gsw4k1ul5Stx1Ayg5Upu1Gqu11vx11W.12X
  .16wx11xx12yx11wx11yx11yx11W.16yx11yx11yx12yx11zx11yx11yx11yx11Xv12yx13ub56yx11yx11wx11yx11yx11w
  x112r4600508090J0s306223n9_.12W_1D_.162bOy11oY23vT401030108090H040103010101010101010101010101010
  1020101010101rT101sT1fK1fK1010101d11010101010101010104010GwY2BtTF0AuY2B0m4ia32ja3Dia3FuY36213n9t
  a32ua3Dta3621d21df23bd17gc13sc16_d16sd1Jqd18lf1NWd12Xd11vP1vPFo44b11c15id15cd14gf22gC1gC1gC1gC3f
  f13Yd17o41o41o41o41o41o41pf1CZi21nf12Zc11wc11o41o41ad1GXy4k1um5Sam1Aij5Ubl1Gcl11cm11hn12in16dm11
  em12fm11dm11fm11fm11hn16fm11fm11fm12fm11gm11fm11fm11fm11il12fm13Zc56fm11fm11dm11fm11fm11dm16213n
  9do12eo1Ddo16295l9zY31dc31zf32.f3Dzf36213n9fg32gg3Dfg362LN1gi2Azd13be1d1xh1Nke12le1LzT1.TEti28nh
  13me1DZi1Cai21Xi12vd14qe1Gbz4q2vl5Uhi3GZh34vs3Sep35gc56213n9qx22.s3Dqx26275l9t_21jZ31ds32Xc3Des3
  62QE1ei2b20i1oi2a1bi2k30j1fx22fp310101010108fx2Fki36213n9qx22ip3Dqx262P91uZ3Jia3.2b6a10x402_p3D0
  Fuw26th462151nAJt4d2Xl2u6zq3Y106213k1rr3j10u6ae46221x2Wi3720f21c92c93c91c91c92c91y51y51y51c95c92
  y55y52y51c9By54c91y51y51c91c91c91c91y51y51c91c9Gy56y52y51c91c91c93y57y53y51c91c91y51y51y51y5411y
  55y51y53c91c91c91c91c91c91y51c91c91c91c91c91c91c91c91c91c91c91c91c91c91c91c91c91c94c9K1721d21d92
  d93d91d91d92d91z51z51z51d95d92z55z52z51d9Bz54d91z51z51d91d91d91d91z51z51d91d9Gz56z52z51d91d91d93
  z57z53z51d91d91z51z51z51z55z55z51z53d91d91d91d91d91d91z51d91d91d91d91d91d91d91d91d91d91d91d91d91
  d91d91d91d91d94d9721d21e92e93e91e91e92e91.51.51.51e95e92.55.52.51e9B.54e91.51.51e91e91e91e91.51.
  51e91e9G.56.52.51e91e91e93.57.53.51e91e91.51.51.51.55.55.51.53e91e91e91e91e91e91.51e91e91e91e91e
  91e91e91e91e91e91e91e91e91e91e91e91e91e94e96241x2Zm26262k1km3b8df46221x2um36211x2ql26232k1yv3b8m
  f46221x2bj36211x2wn26232k1rj3b8uf46221x2ov36211x2vp26232k1Zx3b8Wg46221x2ax36211x2yp26211x2gx3621
  2x20u6fq36211p9yw26211p9Z_26211p9a_26212p9ti47Wx26211w9Xx26231p9_p362e181if1Jg.2.2jf1a10x402yw1D
  0Fyx16212KWe1_8_w162e171qVn3rVa10x402jv3D0FrZ36213l9t_21jZ33Xc36262w9_v33Xe46261p9Xw36211p9yq362
  11p9gx26211p9f_262c171nAn3b6a10x402Ye4D0Fuw26281p9cw36231p9zq36211p9ox26211p9i_26211p9k_26211p9l
  _26211p9je462n171vh1n3b6a10x402zw3D0Fuw26221p9ke46211p9sx26211p9tx26211p9le462C1p9px36211p9jh362
  11p9kh36211p9lh36251p9pe46211p9qe46211p9ux26211p9re46211p9se46211p9te46211p9r_262W11p9iy16211p9j
  y16211p9ny1621Fr1jBb2kBGf8Dg8Msh4q2nd5k1jw21kw23Xx46sw21oy13sw2N.z48sw23sw26211w9qy16263l9kX31vb
  33wc36241p9d.16211p9e.16211p9x.16211p9y.162j271Yj1n3Zj1a10x402xe3D0Fbf36211p9ye36231p9k_16211p9l
  _16211p9x_16211p9y_162O1p9wZ36211p9xZ36211p9_Z3621Fr1jBb2kBGf8Dg8Msh4q2nd5k1jw21kw23tx46sw21Wa33
  sw2N.z48sw23sw26211w9Ya36231p9ka36211p9la36211p9qa36211p9ra362A1p9cW26211p9dW26231p9za36211p9.a3
  6211p9Wb36211p9Xb362a371gf1n3hf1a10x402nm1D0Ffm16211p9om16211p9sm1621Fr1jBb2kBGf8Dg8Msh4q2nd5k1j
  w21kw23Zy46sw21tm13sw2N.z48sw23sw26211w9vm16231p9nn16211p9on16211p9ao16211p9bo16211p9ro16211p9so
  16211p9Yp16211p9Zp162X11p9hf36211p9if36211p9mf3621Fr1jBb2kBGf8Dg8Msh4q2nd5k1jw21kw23hy46sw21nf33
  sw2N.z48sw23sw26211w9pf36231p9Wg36211p9Xg36211p9bg36211p9cg36211p9jg36211p9kg36211p9mg36211p9ng3
  62f21p9yw26211p9zt36211p9.t3621Ar1jBb2kBGf8Dg8Msh4q2nd5k1jw24az47Wx2Q.z46211w9Xx262_11p9os362K2K
  sz2_8ql162L1p9rl16261p9gx26211p9ws36211p9ox26211p9zs36211p9_s36211p9Wt36211p9sx26211p9tx26211p9u
  x26211p9at362j11p9va36211p9wa362F1p9ct362E1p9bp16211p9cp16231p9ht36211p9mt36211p9rt36271p9Xb462i
  31p9gx26211p9gp36231p9eb46221p9ox26211p9hp36211p9jp36211p9kp36211p9sx26211p9tx262B1p9ff46281p9kb
  46231p9ux26211p9lp36241p9nf46211p9vf46211p9Xg46241p9yw26211p9pp36211p9qp362h45i2dL2eLl1fLSuKw4ez
  46211w9Xx26261p9kg46241p9ug46221p9vg46221p9wg46211p9xg46211p9yg46211p9_g46211p9Wh4820c21WY12Yf21
  nk12WY14WY11wW11vn11wl36WY17m81im1Ikk14kf24_h2HuQ9o81o84d1Fc31d3416ZV1ZV9M1if21lf21wz11wz12WY11b
  v11bv11bv11dg21WY11WY11WY11WY11WY11WY11WY11eMKkm1415hq3l1Ye52fh42Ye5Abv3CYe51kw46d_26oe14ac33fh4
  1kw41kw41fh41d_21d_24hq3Pjr21as2h1hq31hq31oa54hq31hq38ld45lw41ih4821X11mL2rz13mL4mL2Xi31rl36mL8g
  a2Muz14h.1a2tz11vz11zq11zq12mL1wm11wm11wm11a.11mL1mL1mL1mL1mL1mL1mLLwa29dt3c3dt3b2dt31dt35dt31dt
  3822S1XY12Zf23XY14XY13ml36XY1Umf24Xi2a2jf21nf21xz11xz12XY11cv11cv11cv11eg21XY11XY11XY11XY11XY11X
  Y11XY1e3gh4Kgh41gh4W3hh4823O1nQ2oX23nQ4nQ3Zj36nQUsX24tY2a2rX21tX21Yv11Yv12nQ1.p11.p11.p11_X21nQ1
  nQ1nQ1nQ1nQ1nQ1nQ823ACvn11cm2Eim1Z4km19hq3c3hq3b2hq31hq35hq31hq38211Dqn38211Ddm28271Dgo38261Dio3
  823N1zm12pz23zm14zm19zm1U.z24tZ3a2uz21_z21uf21uf22zm11WY21WY21WY21eW31zm11zm11zm11zm11zm11zm11zm
  18271Dvo38211Dcm224sDX11dx12012204090Q6262040k1Yy11Zy1A010A0101010201010101010101010101010o2b6Sc
  6c1p6441C1Wq1Add1Y1se1s1010r2Wd4Tri34ri310Lri370c1024261vv1Y3u11v1t3ZOSXPc1pP120b21vC2vC3vC1vC1v
  C2vC1x71x71x71vC5vC2x75x72x71vCBx74vC1x71x72vC1vC1vC1x72vC1vCMx72x71vC1vC1vC3x77x73x71vC1vC1x71x
  71x71x7411x75x71x73vC1vC1vC1vC1vC1vC1x71vC1vC1vC1vC1x71vC1vC1vC1vC1vC1vC1vC1vC1vC1vC1vC1vC5vCK11
  21Z21wC2wC3wC1wC1wC2wC1y71y71y71wC5wC2y75y72y71wCBy74wC1y71y72wC1wC1wC1y72wC1wCMy72y71wC1wC1wC3y
  77y73y71wC1wC1y71y71y71y75y75y71y73wC1wC1wC1wC1wC1wC1y71wC1wC1wC1wC1y71wC1wC1wC1wC1wC1wC1wC1wC1w
  C1wC1wC1wC5wC121Z21xC2xC3xC1xC1xC2xC1z71z71z71xC5xC2z75z72z71xCBz74xC1z71z72xC1xC1xC1z72xC1xCMz7
  2z71xC1xC1xC3z77z73z71xC1xC1z71z71z71z75z75z71z73xC1xC1xC1xC1xC1xC1z71xC1xC1xC1xC1z71xC1xC1xC1xC
  1xC1xC1xC1xC1xC1xC1xC1xC5xC2462DpZ1vAvw44462DpZ1vAvw42462DpZ1vAvw42431DqZ14431DqZ12431DqZ1231K1p
  P7qf14wD1wDD6101wDCwD6wD5cCX12Fb11c1PgY1Y10y1Xm1SYm1c1dr1f201023178tJ4lS1lSFlSClS6lSl2e_182Ff11Y
  Y12cf23YY14YY12ax11ax16YY180Mxf24ci2a2rf21yf21W.11W.12YY11fv11fv11fv11zg21YY11YY11YY11YY11YY11YY
  11YY1L09wq3n1i.4Pj.4Ji.41j.41j.41i.46wq3b2wq31wq35wq31wq3D0108216d5et3c3et3b2et31et35et31et32339
  8nb14616E610C6665wRg2023118tJ24988nY150D6Eyo1i12f10f701044988nY150D6Eyo1i12f10f701024261vv1Y3u11
  v1t3ZOSXPc1pP24181sz1C6R0x1a31b3t3tl1Sul1c1Ys123A78qo14cK10FcKCcK605hb12375Csi11si1E0DlS6si12474
  e10605yCi362442D0Rbp14471e1bp12471e1bp124348gt1N290Bxn12453D0I2Kxn124S61jv1Y3010t30S0c1023258nb1
  Mno11br1KwRi30436A1_Z37nb1Mno11br190BwRi30t1Xd34Xd3MXd323A68jr14wD10Rmr16cK5kV430W24q34q31c22c21
  c21c28q35c21c21c22q3Ac25c21c21c25c23c21c21c21c21c21c21c21c21c21c21c21c21c21c21c22q31q31q31q31q31
  q31q31q31q31q31q31q31q31q31c21q31c21q31c21c21q31q31c24c21c2611c2Kq3Fc22X31c2Ic211431.14r34r31d22
  d21d21d28r35d21d21d22r3Ad25d21d21d25d23d21d21d21d21d21d21d21d21d21d21d21d21d21d21d22r31r31r31r31
  r31r31r31r31r31r31r31r31r31r31d21r31d21r31d21d21r31r31d24d21d27d2Kr3Fd22v71d2Id2431_14kM4kM1oC2o
  C1oC1oC8kM5oC1oC1oC2kM1oC9oC5oC1oC1oC5oC3oC1oC1oC1oC1oC1oC1oC1oC1oC1oC1oC1oC1oC1oC1oC2kM1kM1kM1k
  M1kM1kM1kM1kM1kM1kM1kM1kM1kM1kM1oC1kM1oC1kM1oC1oC1kM1kM1oC4oC1oC7oCKkMFoC201oCIoC4332Vc2l304332V
  d2l30431.14fM4fM1kC2kC1kC1kC8fM5kC1kC1kC2fM1kC9kC5kC1kC1kC5kC3kC1kC1kC1kC1kC1kC1kC1kC1kC1kC1kC1k
  C1kC1kC1kC2fM1fM1fM1fM1fM1fM1fM1fM1fM1fM1fM1fM1fM1fM1kC1fM1kC1fM1kC1kC1fM1fM1kC4kC1kC7kCKfMFkC3k
  CIkC431.14gM4gM1lC2lC1lC1lC8gM5lC1lC1lC2gM1lC9lC5lC1lC1lC5lC3lC1lC1lC1lC1lC1lC1lC1lC1lC1lC1lC1lC
  1lC1lC1lC2gM1gM1gM1gM1gM1gM1gM1gM1gM1gM1gM1gM1gM1gM1lC1gM1lC1gM1lC1lC1gM1gM1lC4lC1lC7lCKgMFlC3lC
  IlC431.14hM4hM1mC2mC1mC1mC8hM5mC1mC1mC2hM1mC9mC5mC1mC1mC5mC3mC1mC1mC1mC1mC1mC1mC1mC1mC1mC1mC1mC1
  mC1mC1mC2hM1hM1hM1hM1hM1hM1hM1hM1hM1hM1hM1hM1hM1hM1mC1hM1mC1hM1mC1mC1hM1hM1mC4mC1mC7mCKhMFmC3mCI
  mC431.14iM4iM1nC2nC1nC1nC8iM5nC1nC1nC2iM1nC9nC5nC1nC1nC5nC3nC1nC1nC1nC1nC1nC1nC1nC1nC1nC1nC1nC1n
  C1nC1nC2iM1iM1iM1iM1iM1iM1iM1iM1iM1iM1iM1iM1iM1iM1nC1iM1nC1iM1nC1nC1iM1iM1nC4nC1nC7nCKiMFnC3nCIn
  C23L58et146G6C6r2024E2DpZ1vAvw42411DqZ123318tJ43168jt136H0C0Byn1y2243118tJ23G58ro14cK1cKR0BwR24K
  v110374.Y21535975oc21537F5254jq1153B1B1B1B1B1B1B1B1B1B1B1B1B1B1B271717171717171717171717171pZ215
  1715171515171715451575Z15J52524L41086q26l1644Q48tc140S0BzY124Q48tc140S0BzY123L38cj140Y162311e1g_
  124c148tc140S0BzY123O1e1043G.14u44u41s82s81s81s88u45s81s81s82u41s89s85s81s81s85s83s81s81s81s81s8
  1s81s81s81s81s81s81s81s81s81s82u41u41u41u41u41u41u41u41u41u41u41u41u41u41s81u41s81u41s81s81u41u4
  1s84s81s87s8K0Fs83s8Is8431z14v44v41t82t81t81t88v45t81t81t82v41t89t85t81t81t85t83t81t81t81t81t81t
  81t81t81t81t81t81t81t81t81t82v41v41v41v41v41v41v41v41v41v41v41v41v41v41t81v41t81v41t81t81v41v41t
  84t81t87t8Z1t83t8It824AL8uc14k21k2Drr11k2D05k22sW24uk11qW2Ob82b86fw2f10Hk2Gk21k2z2x_2q2ca3M01024
  B2DpZ1vAvw424B2DpZ1vAvw444B1v5ze424861ha3Y3c31d3t3th3SYo3c1kY42441DqZ12441DqZ124d148tc140J0KzY12
  4d13C0J0KzY1239DD5DxW115D5651uZ15tZ1W1gj17b8Z2010z2zv2q2Zx2435F8dU3525D52535956550X17f10I5G0d601
  0120.11p52p53p51p53p51mO3p55p52mO5xW13p5Fp51mO2gb31p51p51p53p51p5GmO9p51p51p53kSAmO1p51p51mO1mO1
  mO1mO411mO5mO1mO3p51p51p51p51p51p51mO1p51p51p51p52p51p51p51p51p51p51p51p51p51p51p51p51p5O1w2sd1q
  2W_4233J8ot14dy110D510D.m15_Y11dy11ri155OYN2YN6di177Y1he3Hr2k30o1bW5Y1_w224458dr1W10605jq1i35242
  BDdy1Er2D0601ij4b1.c3f10X1r21r2l40Y1.Z323398uc14_Y115E5D565j1YNY10n5024348ov150I5KYW223M48kt1W16
  605zn123N1e1023218tJ23218tJ23148lt1N2F05.n123118tJ2342e1lSBcC2313Uno11br19023228l.1W10120z11q82q
  83q81q83q81cS3q85q82cS5cS3q8Fq81cS3q81q81q83q81q8GcS9q81q81q83cSAcS1q81q81cS1cS1cS1cS411cS5cS1cS
  3q81q81q81q81q81q81pv21q81q81q81q82q81q81q81q81q81q81q81q81q81q81q81q81q8O1x2oe1a3tc123F88nx14vL
  Gck4CvL605xb1g2po1n5024D58dr1W10605jq1i3543v1A1ua37tJ40F0Ilj46cCc40Tzj44zj4Mzj4120z11aD2aD3aD1aD
  3aD1yX13aD5aD2yX15yX12yX11aDFaD1yX12aD1aD1aD1aD3aD1aDGyX19aD1aD1aD3yX1AyX11aD1aD1yX11yX11yX11yX1
  411yX15yX11yX13aD1aD1aD1aD1aD1aD1yX11aD1aD1aD1aD2aD1aD1aD1aD1aD1aD1aD1aD1aD1aD1aD1aD1aDO123l2910
  86q266010e16l20S0c10235ADvLFvLH51vL15T72767w10Y6023278tJ4lS1lSFlSClS6lSl2e_123278dU4vS1vSFvSCvS6
  vSl2rZ223858mx14XX1Gdy1CXX1B_t123R68ft150E015I05_t1244F8ro14u31u3Eu310C05WZ1105wRPZN2ZNl10Hu3Gu3
  1u323T6D0E0D06k2j17Y1b823E18m.124C48ov150I5KYW223498nb14WZ116E6D666j1ZNZ201024Q38mv1N0Ky_123418o
  .123118s.143368qv135G0OZW2y25G023218t.123118u.123118tJ23118v.123118w.123118n.123G3C5Gk2_1723218r
  .124.261jv1Y3010t30S0c1012T2m1nf3w2023P7D0Fu3HWZ110UZN2ZNW2u312Rx11jD2jD3jD1jD3jD1hZ13jD5jD2hZ15
  hZ12hZ11jDFjD1hZ1201jD1jD1jD3jD1jDGhZ19jD1jD1jD3hZ1AhZ11jD1jD1hZ11hZ11hZ11hZ15hZ15hZ11hZ13jD1jD1
  jD1jD1jD1jD1hZ11jD1jD1jD1jD2jD1jD1jD1jD1jD1jD1jD1jD1jD1jD1jD1jD1jD24H58nY1W10605yCi3623W168dU4r2
  G0CvS6r2l20123w11kD2kD3kD1kD3kD1iZ13kD5kD2iZ15iZ12iZ11kDFkD1iZ13kD1kD1kD3kD1kDGiZ19kD1kD1kD3iZ1A
  iZ11kD1kD1iZ11iZ11iZ11iZ15iZ15iZ11iZ13kD1kD1kD1kD1kD1kD1iZ11kD1kD1kD1kD2kD1kD1kD1kD1kD1kD1kD1kD1
  kD1kD1kD1kD1kD23T1p1023S1p1023748qo14cKScKBhb123T68ft14_Y1G5C5p1YNY1023648uc14ju2Y1ju25uk124v28B
  0H0C060l20HX310Gc224v28B0H0C060l20Hv710Gd224S48mv14r2J0Ky_12434RX340_3X31X32434Rv740_3v71v724H1e
  1bp124E48gt150I6Kxn143968qv135H0C0BZW2y2523X16C6X16V222D2p1023118tJ23e138rv1K0NeW223148fr1W10655
  is123148sv1N5F05kW223f138dUh1xb1g2023g14C51k2X10l2023d268uc130H030Kuk1y2023118dU24168dr150Ryo160
  5jq1i3524U41086q26l1612Pw11mD2mD3mD1mD3mD1db13mD5mD2db15db1201mDFmD1db13mD1mD1mD3mD1mDGdb19mD1mD
  1mD3db1Adb11mD1mD1db11db11db11db15db15db11db13mD1mD1mD1mD1mD1mD1db11mD1mD1mD1mD2mD1mD1mD1mD1mD1m
  D1mD1mD1mD1mD1mD1mD1mD2422D6R02442D5R023P5ScKH6V222W2023S78mx14XX110FXX1CXX1605_t112l25QmOL0b1mO
  e50q2024p37B0H0C060l20I0GoC23I5Csi11si1E0DlS6si124_26B0H0C060X30Gs824S1k4024S1k4024r37B0H0C060l2
  0I0GkC24r37B0H0C060l20I0GlC24Z36B0H0C060X30Gt823K3C0Gk2I023i168tJ4u3G0ClS6u3l2012Bv11lD2lD3lD1lD
  3lD1ea13lD5lD2ea15ea13lDFlD1ea13lD1lD1lD3lD1lDGea19lD1lD1lD3ea1Aea11lD1lD1ea11ea11ea11ea15ea15ea
  11ea13lD1lD1lD1lD1lD1lD1ea11lD1lD1lD1lD2lD1lD1lD1lD1lD1lD1lD1lD1lD1lD1lD1lD1lD24v37B0H0C060l20I0
  GmC24v37B0H0C060l20I0GnC24I18tJ23g168et14WZ1G6C6p1ZNY1023648nb14lu2Y1lu25wR23748ro1W10BwRg2wO23g
  16CX310E0Dc26X3n3023g16Cv710E0Dd26v7n3024c148tc14u3J0KzY123k14C51_Y1R06024P38dUN5K024Q18dU24V1e1
  bp124V1e1bp124148gt1N690Bxn124118tJ43D68jt136H0C0Byn1y2623e12k10j1b82482D0c1YW223e11p1023w148rv1
  4r2G0NeW224318ov123248fr1W10655is123148sv1N5F05kW224d11p1023c11p1024v148tc140S0BzY123m15Cmq11mq1
  E0D06mq12312e1vSB023E58nb1Mno11ao2KwRi3023958uc1Mwv11zo1Kuk1i3023f168jr14wD10Rmr16cK5kV23478d_14
  vL10HeX2Awk26XX15is123k158ft145G5C5r2023m158et146G6C6r2023C38dUN0Kxb123U5Cc2J0906c2l2aK23U5Cd2J0
  906d2l2eT23Y14C61WZ1R06024h23CX310I024h23Cv710I023718tJ43168jt136H0C0Byn1y2643118tJ23D58ro14cK1c
  KR0BwR23I48ot14XX11XX1X1XX124K11za323E18dU23j148kt14u3G0Nzn124S1p1023248cj1W10665kV23148lt1N6F05
  .n143568qv135H0C0BZW2y2543118dU62v6l1182oS1tS2848101im11km168QxO4qS4sSH0e1fF1fFApS1rS1zE1zE281w5
  1w51w51qC18181818181818j202020M0106Y_2D01010101Y_21Y_2Tgr21.r2_101023P1p1023P38cj140Y1623P38fr14
  0Y152321e1g_12321e1cg323R1p1023U1e1023U2U7A023C38tJN0KcC23S2CX3n3023S2Cv7n3062CACkl21_l2Ekl2Z4_l
  29qs3c3qs3b2qs31qs35qs31qs3621ACga21wa2Ega2Z4wa29dt3c3dt3b2dt31dt35dt31dt3621ACll21rl2Ell2Z4rl29
  it3c3it3b2it31it35it31it3621ACml21sp2Eml2Z4sp29nt3c3nt3b2nt31nt35nt31nt3621ACnl21cq2Enl2Z4cq29st
  3c3st3b2st31st35st31st324P41086q26l1624118tJ24t13C0J0Ky_124118mv123U1p1043O1p1023F1p1023K48kt1W1
  6605zn123L1e1023218tJ23218tJ23148lt1N6F05.n123118tJ24A1p102352e1lSBcC2313Uno11ao29023W148dU40F0O
  xb123S48rv140G0NeW223U2U7A023218dU23218dU23148sv1N5F05kW223118dU23928l.1W1023238_Y2N0Kxb162QAC01
  pw1E0Z4pw19sw3c3sw3b2sw31sw35sw31sw36212DwW2n4wW26212D_s2n4_s223518m.123518XZ26232DZw1n4Zw16212D
  j_1n4j_16212Dbm2n4bm26212Ddw1n4dw16212Dv_1n4v_16212D.n2n4.n26212DYw1n4Yw16212Dh_1n4h_16212Dvl2n4
  vl26212Dfw1n4fw16212Dx_1n4x_16212Dxp2n4xp26212Dkw1n4kw16212DhW2n4hW26212Deq2n4eq223H18o.123H18ZZ
  223218s.123218cZ223218t.123218dZ223218u.123218eZ223218tJ23118v.123318fZ223218w.123218gZ223218n.1
  23218YZ223f12e1vSB023j11p1023418r.123418aZ223l11p1023l11p1023318dU23k11p1023i11p1023118XZ223118Z
  Z223118cZ223118dZ223118eZ223118fZ223118gZ223118YZ223118aZ262Y18D0n409wq3c3wq3b2wq31wq35wq31wq362
  Z12D0n406216d5ts3c3ts3b2ts31ts35ts31ts36216d5et3c3et3b2et31et35et31et36216d5jt3c3jt3b2jt31jt35jt
  31jt36216d5ot3c3ot3b2ot31ot35ot31ot36216d5tt3c3tt3b2tt31tt35tt31tt3621d1381xo19al3D01wi3Mho148V0
  Qwb11wb19_n11do11go11mb11mb12eo1Cko11lo1S0z10Jvz26ks2401Wk13jo23vz21vz21ri43jd41ri4O.p21zr2h1010
  10401ri48pf2DWk16214Dbl3Esx1d7Xk1i3Xk1621a11hm12hm11rl42hm14hm13pl46hm18ql4Isl44tf34hm1Qyv21yv2J
  ul41vl4Axv21xv29tl41qf31sf31sk21sk22rf31sZ21sZ21sZ21uf31hm11hm11hm11hm11hm11hm11hm11vf31wf3150q1
  4au11tt11bu11Zu11nw11it11Zp11ok11mM1qq15Wp11Xp11_o16A1ADA8fp11hp11cp1Y1AK1GM5A1wo15cs17gp17dp11e
  p1CA1A316sb51we43hY4BgY41gY4b1gY43gY42gY4Roe1IgY4AgY41gY41gY41iY42gY42gY42gY43gY4y1oc45vw41bi415
  12Drq1vAai46244Dsk3Exi3d7bk1i3bk16251Dxk31541Doq16224Dno3Eyi3d7ek1i3ek16231Dpo31531Dpq16224Djg4E
  zi3d7hk1i3hk16231Dkg41531Dsq16224Doh4E.i3d7kk1i3kk16231Dph4120p11Yk12Yk11mk12Yk14Yk11wW11lK1vl36
  Yk1Qvo14Y_24Yk1HuQTu11v1416tk11tk1Ae.21Z_21ig21ig22Yk11bY21bY21bY21bX31Yk11Yk11Yk11Yk11Yk11Yk11Y
  k1P1q1Ye52fh42Ye5MYe51gh46pi3Dfh41gh41gh41fh41pi31pi3Tdr21wr2_1hh41ih4530p14fY15hL2hL1hL1hL8fY15
  e21hL1hL2fY11hL9hL5i21hL1f25Zq2JhL1hL1fY11hL1hL1fY11hL1fY11fY11fY11fY11hL1hL1_s11hL1fY11hL1fY11h
  L1hL1fY11hL1hL4hL1hL611l1Z1hL3hLIhL11a2uw4Inp14wp1q2ol1122S1Zk12Zk13Zk14Zk13el36Zk1Uw_24Zk1a2u.2
  1x_21mg21mg22Zk11cY21cY21cY21uX31Zk11Zk11Zk11Zk11Zk11Zk11Zk1e3kw4Kkw41kw4W3lw4121O1ak12ak13ak14a
  k13zk36ak1U__24ak1a2x.21WW31rg21rg22ak11dY21dY21dY21vX31ak11ak11ak11ak11ak11ak11ak1121O1bk12bk13
  bk14bk13ql36bk1UXW34bk1a2y.21YW31sg21sg22bk11eY21eY21eY21wX31bk11bk11bk11bk11bk11bk11bk1121O1ck1
  2ck13ck14ck13so36ck1UaW34ck1a2..21bW31tg21tg22ck11fY21fY21fY21xX31ck11ck11ck11ck11ck11ck11ck1121
  O1dk12dk13dk14dk13_o36dk1UcW34dk1a2_.21dW31vg21vg22dk11gY21gY21gY21yX31dk11dk11dk11dk11dk11dk11d
  k1540o14r45X52X51X51X58r41X54X51X53r41X51X58X55X52X55X5JX51X51r41X51X51r41X51r41r41r41r41X51X51r
  41X51r41X51r41X51X51r41X51X54X51X5611X5Kr4FX52X5GX51X52X51115B58ma44A1AvA010542m14s45Y52Y51Y51Y5
  8s41Y54Y51Y53s41Y51Y58Y55Y52Y55Y5JY51Y51s41Y51Y51s41Y51s41s41s41s41Y51Y51s41Y51s41Y51s41Y51Y51s4
  1Y51Y54Y51Y57Y5Ks4FY52Y5GY51Y52Y515238nw14df11df153Am14b85k22k21k21k28b86k21k22b81k29k25k21k21fs
  25k2Jk21k21b81k21k21b81k21b81b81b81b81k21k22k21b81k21b81k21k21b81k21k24k21k27k2Z1k22k21k2Ik2b20I
  04.m1q2_m1531k14iV5aA2aA1aA1aA8iV6aA1aA2iV1aA9aA5aA1aA1bd45aAJaA1aA1iV1aA1aA1iV1aA1iV1iV1iV1iV1a
  A1aA2aA1iV1aA1iV1aA1aA1iV1aA1aA4aA1aA7aAZ1aA2aA1aAIaAx2Wn1q2Xn1531k14jV5bA2bA1bA1bA8jV6bA1bA2jV1
  bA9bA5bA1bA1cd45bAJbA1bA1jV1bA1bA1jV1bA1jV1jV1jV1jV1bA1bA2bA1jV1bA1jV1bA1bA1jV1bA1bA4bA1bA7bAZ1b
  A2bA1bAIbAx2Yn1q2Zn1531m14tK5r22r21r21r28tK5r21r21r22tK1r29r25r21r21rs25r2Jr21r21tK1r21r21tK1r21
  tK1tK1tK1tK1r21r22r21tK1r21tK1r21r21tK1r21r24r21r27r2Z1r22r21r29yZ29r2x20q2rm1129X11ek12ek13ek14
  ek12ax11ax16ek1UrW34ek1a2hW31sW31_g21_g22ek11hY21hY21hY21eY31ek11ek11ek11ek11ek11ek11ek1l2i.4Pj.
  4Ji.41j.41j.41i.4_201053Fh14Y65l22l21l21l28Y65l21l21l22Y61l29l26l2Pl21l21Y61l21l21Y61l21Y61Y61Y6
  1Y61l21l21Y61l21Y61l21Y61l21l21Y61l21l24l21l2g1l23l2Il2x20q20530n14c95y52y51y51y58c95y51y51y52c9
  1y59y55y51y51y55y5Jy51y51c91y51y51c91y51c91c91c91c91y51y51c91y51c91y51c91y51y51c91y51y54y51y5611
  y5Kc9Fy52y51y5Iy511531l14d95z52z51z51z58d95z51z51z52d91z59z55z51z51z55z5Jz51z51d91z51z51d91z51d9
  1d91d91d91z51z51d91z51d91z51d91z51z51d91z51z54z51z57z5Kd9Fz52z51z5Iz5531l14e95.52.51.51.58e95.51
  .51.52e91.59.55.51.51.55.5J.51.51e91.51.51e91.51e91e91e91e91.51.51e91.51e91.51e91.51.51e91.51.54
  .51.57.5Ke9F.52.51.5I.5540n14s14dY11v22v21v21v28s15v21v21v22s11v29v25v21v21v25v2Jv21v21s11v21v21
  s11v21s11s11s11s11v21v21s11v21s11v21s11v21v21s11v21v24v21v2611v2Z1v23v2Gyl22v211532m14wO5u32u31u
  31u38wO5u31u31u32wO1u39u35u31u31u35u3Ju31u31wO1u31u31wO1u31wO1wO1wO1wO1u31u31wO1u31wO1u31wO1u31u
  31wO1u31u34u31u37u3K0Fu32u31u39u39u3538l14.B5a22a21a21a28.B5a21a21a22.B1a29a25a21a21a25a2Ja21a21
  .B1a21a21.B1a21.B1.B1.B1.B1a21a22a21.B1a21.B1a21a21.B1a21a24a21a27a2Z1a22a21a2909a2l5xm153Al14gT
  5p82p81p81p88gT6p81p82gT1p89p85p81p81Zd45p8Jp81p81gT1p81p81gT1p81gT1gT1gT1gT1p81p81gT1p81gT1p81g
  T1p81p81gT1p81p84p81p87p8Z1p82p81p8Ip8x2ym1q2053H7M06X540EX5X3X5F01053B1u40535l14xU5p92p91p91p98
  xU5p91p91p92xU1p99p95p91p91p95p9Jp91p91xU1p91p91xU1p91xU1xU1xU1xU1p91p91xU1p91xU1p91xU1p91p91xU1
  p91p94p91p97p9Z1p92p91p99p99p953I7M06Y540EY5X3Y5F010532l14bK5_22_21_21_28bK5_21_21_22bK1_29_25_2
  1_21_25_2J_21_21bK1_21_21bK1_21bK1bK1bK1bK1_21_21bK1_21bK1_21bK1_21_21bK1_21_24_21_27_2Z1_22_21_
  29yZ29_25373q2.Ba2_k2u50532k14eK5o32o31o31o38eK5o31o31o32eK1o39o35o31o31o35o3Jo31o31eK1o31o31eK1
  o31eK1eK1eK1eK1o31o31eK1o31eK1o31eK1o31o31eK1o31o34o31o37o3Z1o32o31o3Io3534l14s25e12e11e11e18s25
  e11e11W82s2109e15e11e11e15e1Je11e11s21e11e11s21e11s21s21s21s21e11e11s21e11s21e11s21e11e11s21e11e
  14e11e17e1KfTFe12W81e1Ie15313SY3X3hJHY353H4j1l22l25l2o5053Bk14sK5n92n91n91n98sK6n91n92sK1n99n95n
  91n91n95n9Jn91n91sK1n91n91sK1n91sK1sK1sK1sK1n91n91sK1n91sK1n91sK1n91n91sK1n91n94n91n97n9Z1n9201n
  9In9x2zp1531j14oW15ZK2ZK1ZK1ZK8oW16ZK1ZK2oW11ZK9ZK5ZK1ZK1ZK5ZKJZK1ZK1oW11ZK1ZK1oW11ZK1oW11oW11oW
  11oW11ZK1ZK1oW11ZK1oW11ZK1oW11ZK1ZK1oW11ZK1ZK4ZK1ZK7ZKZ1ZK3ZKIZKx2jq1537k14rL5m72m71m71m78rL5m71
  m71m72rL1m79m75m71m71m75m7Jm71m71rL1m71m71rL1m71rL1rL1rL1rL1m71m71rL1m71rL1m71rL1m71m71rL1m71m74
  m71m77m7Z1m73m7909m75313i2jn12yp1W2to1531h14oZ15gJ2gJ1gJ1gJ8oZ15gJ1gJ1gJ2oZ11gJ9gJ5gJ1gJ1gJ5gJJg
  J1gJ1oZ11gJ1gJ2gJ2oZ11oZ11oZ11gJ1gJ1oZ11gJ1oZ11gJ1oZ11gJ1gJ1oZ11gJ1gJ4gJ1gJ7gJZ1gJ3gJIgJ540m14f1
  5x12gd11x11x18f11x14x11x13f11x11x1Dx12re45x1Jx11x11f11x11x11f11x11f11f11f11f11x11x11f11x11f11x11
  f11x11x11f11x11x14x11x1611x1Z1x1Ix11x12x111OZs15411l1se45411l1x1534k14vC5x72x71x71x78vC5x71x71x7
  2vC1x79x75x71x71x75x7Jx71x71vC1x71x71vC1x71vC1vC1vC1vC1x71x71vC1x71vC1x71vC1x71x71vC1x71x74x71x7
  7x7Z1x72x71x7Ix7531l14j34dY11j12j11lm11j18j35j11j11j12j3109j15lm11j11j15j1Jj11j11j31j11j11cY11j1
  1cY11j31j31j31j11j11j31j11j31j11j31j11j11cY11j11j14j11j17j1Z1j12X61j1Ij153q9W1804k2X1k22uZ15tZ13
  01010101010101010101010101010251525151b8151b845158b815o1k2532k14X44rb11q12q11mm11q18X45q11q11q12
  X4Aq15mm11q11q15q1Jq11q11X41q11q11eY11q11eY11X41X41X41q11q11X41q11X41q11X41q11q11eY11q11q14q11q1
  7q1Z1q12c81q1Iq15328Ct7X1t72555OvO2vODvOp1t7531k14wC5y72y71y71y78wC5y71y71y72wC1y79y75y71y71y75y
  7Jy71y71wC1y71y71wC1y71wC1wC1wC1wC1y71y71wC1y71wC1y71wC1y71y71wC1y71y74y71y77y7Z1y72y71y7Iy7531k
  14xC5z72z71z71z78xC5z71z71z72xC1z79z75z71z71z75z7Jz71z71xC1z71z71xC1z71xC1xC1xC1xC1z71z71xC1z71x
  C1z71xC1z71z71xC1z71z74z71z77z7Z1z72z71z7Iz7538BBwn1B06x1408x16x11ze4W3x1F010Rer15311l1.e45311l1
  x1534k14vU5fA2fA1fA1fA8vU5fA1fA1fA2vU1fA9fA5fA1fA1fA5fAJfA1fA1vU1fA1fA1vU1fA1vU1vU1vU1vU1fA1fA1v
  U1fA1vU1fA1vU1fA1fA1vU1fA1fA4fA1fA7fAZ1fA2fA1fAIfA531k14.S5j52j51j51j58.S5j51j51j52.S1j59j55j51j
  51j55j5Jj51j51.S1j51j51.S1j51.S1.S1.S1.S1j51j51.S1j51.S1j51.S1j51j51.S1j51j54j51j57j5Z1j52j51j5I
  j553Q1u40531k14hT5i92i91i91i98hT5i91i91i92hT1i99i95i91i91ad45i9Ji91i91hT1i91i91hT1i91hT1hT1hT1hT
  1i91i91hT1i91hT1i91hT1i91i91hT1i91i94i91i97i9Z1i92i91i9Ii9531k14jI5p32p31p31p38jI5p31p31p32jI1p3
  9p35p31p31p35p3Jp31p31jI1p31p31jI1p31jI1jI1jI1jI1p31p31jI1p31jI1p31jI1p31p31jI1p31p34p31p37p3Z1p
  32p31p3Ip35311j1fc253T1u40531k14uU5eA2eA1eA1eA8uU5eA1eA1eA2uU1eA9eA5eA1eA1eA5eAJeA1eA1uU1eA1eA1u
  U1eA1uU1uU1uU1uU1eA1eA1uU1eA1uU1eA1uU1eA1eA1uU1eA1eA4eA1eA7eAZ1eA2eA1eAIeA54e1180532k14yA5X62X61
  X61X68yA5X61X61X62yA1X69X65X61X61X65X6JX61X61yA1X61X61yA1X61yA1yA1yA1yA1X61X61yA1X61yA1X61yA1X61
  X61yA1X61X64X61X67X6Z1X62X61X6IX653p14Qk2w1b8e50q20531k14pT5xA2xA1xA1xA8pT5xA1xA1xA2pT1xA9xA5xA1
  xA1dd45xAJxA1xA1pT1xA1xA1pT1xA1pT1pT1pT1pT1xA1xA1pT1xA1pT1xA1pT1xA1xA1pT1xA1xA4xA1xA7xAZ1xA2xA1x
  AIxA531k14rU5cA2cA1cA1cA8rU5cA1cA1cA2rU1cA9cA5cA1cA1cA5cAJcA1cA1rU1cA1cA1rU1cA1rU1rU1rU1rU1cA1cA
  1rU1cA1rU1cA1rU1cA1cA1rU1cA1cA4cA1cA7cAZ1cA2cA1cAIcA531k14qT5c82c81c81c88qT5c81c81c82qT1c89c85c8
  1c81c85c8Jc81c81qT1c81c81qT1c81qT1qT1qT1qT1c81c81qT1c81qT1c81qT1c81c81qT1c81c84c81c87c8Z1c82c81c
  8Ic8531k14WV5lA2lA1lA1lA8WV5lA1lA1lA2WV1lA9lA5lA1lA1lA5lAJlA1lA1WV1lA1lA1WV1lA1WV1WV1WV1WV1lA1lA
  1WV1lA1WV1lA1WV1lA1lA1WV1lA1lA4lA1lA7lAZ1lA2lA1lAIlA53Tj14uW15j92j91j91j98uW15j91j91j92uW11j99j9
  5j91j91j95j9Jj91j91uW11j91j92j91uW11uW11uW11uW11j91j91uW11j91uW11j91uW11j91j91uW11j91j94j91j97j9
  Z1j92j91j9Ij953Me14vO5t72t72t78vO5t71t71t72vO1t79t76t71t75t7Jt71t71vO1t71t72t72vO1vO1vO1t71t71vO
  1t71vO1t71vO1t71t72t71t74t71t77t7Z1t73t7It7531k14iT5e82e81e81e88iT5e81e81e82iT1e89e85e81e81e85e8
  Je81e81iT1e81e81iT1e81iT1iT1iT1iT1e81e81iT1e81iT1e81iT1e81e81iT1e81e84e81e87e8Z1e82e81e8Ie8531k1
  4jT5x92x91x91x98jT5x91x91x92jT1x99x95x91x91x95x9Jx91x91jT1x91x91jT1x91jT1jT1jT1jT1x91x91jT1x91jT
  1x91jT1x91x91jT1x91x94x91x97x9Z1x92x91x9Ix953X1h14yY15eB2eB1eB1eB8yY15eB1eB1eB2yY11eB9eB5eB1eB1e
  B5eBJeB1eB1yY11eB1eB2eB2yY11yY11yY11eB1eB1yY11eB1yY11eB1yY11eB1eB1yY11eB1eB4eB1eB7eBZ1eB3eBIeB53
  Fg14xY15bC2bC1bC1bC8xY15bC1bC1bC2xY11bC9bC6bC1bC5bCJbC1bC1xY11bC1bC2bC2xY11xY11xY11bC1bC1xY11bC1
  xY11bC1xY11bC1bC1xY11bC1bC4bC1bC7bCZ1bC3bCIbC531k14oU5q92q91q91q98oU5q91q91q92oU1q99q95q91q91q95
  q9Jq91q91oU1q91q91oU1q91oU1oU1oU1oU1q91q91oU1q91oU1q91oU1q91q91oU1q91q94q91q97q9Z1q92zg31q9Iq953
  2j14sU5dB2dB1dB1dB8sU5dB1dB1dB2sU1dB9dB6dB1dB5dBJdB1dB1sU1dB1dB1sU1dB1sU1sU1sU1sU1dB1dB1sU1dB1sU
  1dB1sU1dB1dB1sU1dB1dB4dB1dB7dBZ1dB2dB1dBIdB53i1j14fT5W82W81W81W88fT5W81W83fT1W89W85W81W81W85W8JW
  81W81fT1W81W81fT1W81fT1fT1fT1fT1W81W81fT1W81fT1W81fT1W81W81fT1W81W84W81W87W8K0FW83W8IW8531k14kT5
  y92y91y91y98kT5y91y91y92kT1y99y95y91y91y95y9Jy91y91kT1y91y91kT1y91kT1kT1kT1kT1y91y91kT1y91kT1y91
  kT1y91y91kT1y91y94y91y97y9Z1y92y91y9Iy9531k14iU5v92v91v91v98iU5v91v91v92iU1v99v95v91v91v95v9Jv91
  v91iU1v91v91iU1v91iU1iU1iU1iU1v91v91iU1v91iU1v91iU1v91v91iU1v91v94v91v97v9Z1v92v91v9Iv9531k14.A5
  X82X81X81X88.A5X81X81X82.A1X89X85X81X81X85X8JX81X81.A1X81X81.A1X81.A1.A1.A1.A1X81X81.A1X81.A1X81
  .A1X81X81.A1X81X84X81X87X8Z1X82X81X8IX853l1j14hJ5Y32Y31Y31Y38hJ5Y31Y33hJ1Y39Y35Y31Y31Y35Y3JY31Y3
  1hJ1Y31Y31hJ1Y31hJ1hJ1hJ1hJ1Y31Y31hJ1Y31hJ1Y31hJ1Y31Y31hJ1Y31Y34Y31Y37Y3K0FY33Y3IY3531k14oT5n72n
  71n71n78oT5n71n71n72oT1n79n75n71n71n75n7Jn71n71oT1n71n71oT1n71oT1oT1oT1oT1n71n71oT1n71oT1n71oT1n
  71n71oT1n71n74n71n77n7Z1n72n71n7In75320531k14pU5YA2YA1YA1YA8pU5YA1YA1YA2pU1YA9YA5YA1YA1YA5YAJYA1
  YA1pU1YA1YA1pU1YA1pU1pU1pU1pU1YA1YA1pU1YA1pU1YA1pU1YA1YA1pU1YA1YA4YA1YA7YAZ1YA2YA1YAIYA531k14nT5
  o92o91o91o98nT5o91o91o92nT1o99o95o91o91o95o9Jo91o91nT1o91o91nT1o91nT1nT1nT1nT1o91o91nT1o91nT1o91
  nT1o91o91nT1o91o94o91o97o9Z1o92o91o9Io9531k14qU5ZA2ZA1ZA1ZA8qU5ZA1ZA1ZA2qU1ZA9ZA5ZA1ZA1ZA5ZAJZA1
  ZA1qU1ZA1ZA1qU1ZA1qU1qU1qU1qU1ZA1ZA1qU1ZA1qU1ZA1qU1ZA1ZA1qU1ZA1ZA4ZA1ZA7ZAZ1ZA2ZA1ZAIZA531k14wU5
  gA2gA1gA1gA8wU5gA1gA1gA2wU1gA9gA5gA1gA1gA5gAJgA1gA1wU1gA1gA1wU1gA1wU1wU1wU1wU1gA1gA1wU1gA1wU1gA1
  wU1gA1gA1wU1gA1gA4gA1gA7gAZ1gA2gA1gAIgA531k14zU5iA2iA1iA1iA8zU5iA1iA1iA2zU1iA9iA5iA1iA1iA5iAJiA1
  iA1zU1iA1iA1zU1iA1zU1zU1zU1zU1iA1iA1zU1iA1zU1iA1zU1iA1iA1zU1iA1iA4iA1iA7iAZ1iA2iA1iAIiA531k14nU5
  XA2XA1XA1XA8nU5XA1XA1XA2nU1XA9XA5XA1XA1XA5XAJXA1XA1nU1XA1XA1nU1XA1nU1nU1nU1nU1XA1XA1nU1XA1nU1XA1
  nU1XA1XA1nU1XA1XA4XA1XA7XAZ1XA2XA1XAIXA531k14zJ5s32s31s31s38zJ5s31s31s32zJ1s39s35s31s31nu25s3Js3
  1s31zJ1s31s31zJ1s31zJ1zJ1zJ1zJ1s31s31zJ1s31zJ1s31zJ1s31s31zJ1s31s34s31s37s3Z1s32s31s3Is3531k14aK
  5X32X31X31X38aK5X31X31X32aK1X39X35X31X31X35X3JX31X31aK1X31X31aK1X31aK1aK1aK1aK1X31X31aK1X31aK1X3
  1aK1X31X31aK1X31X34X31X37X3Z1X32X31X3IX3531k14eT5v72v71v71v78eT5v71v71v72eT1v79v75v71v71v75v7Jv7
  1v71eT1v71v71eT1v71eT1eT1eT1eT1v71v71eT1v71eT1v71eT1v71v71eT1v71v74v71v77v7Z1v72v71v7Iv75331l1ou
  2531k14wK5z32z31z31z38wK5z31z31z32wK1z39z35z31z31z35z3Jz31z31wK1z31z31wK1z31wK1wK1wK1wK1z31z31wK
  1z31wK1z31wK1z31z31wK1z31z34z31z37z3Z1z32z31z3Iz35313i2jn12yp1W2to1531k14fU5f92f91f91f98fU5f91f9
  1f92fU1f99f95f91f91f95f9Jf91f91fU1f91f91fU1f91fU1fU1fU1fU1f91f91fU1f91fU1f91fU1f91f91fU1f91f94f9
  1f97f9Z1f92f91f9If9531k14gU5g92g91g91g98gU5g91g91g92gU1g99g95g91g91g95g9Jg91g91gU1g91g91gU1g91gU
  1gU1gU1gU1g91g91gU1g91gU1g91gU1g91g91gU1g91g94g91g97g9Z1g92g91g9Ig95370531k14hU5h92h91h91h98hU5h
  91h91h92hU1h99h95h91h91h95h9Jh91h91hU1h91h91hU1h91hU1hU1hU1hU1h91h91hU1h91hU1h91hU1h91h91hU1h91h
  94h91h97h9Z1h92h91h9Ih9531k14XV5mA2mA1mA1mA8XV5mA1mA1mA2XV1mA9mA5mA1mA1mA5mAJmA1mA1XV1mA1mA1XV1m
  A1XV1XV1XV1XV1mA1mA1XV1mA1XV1mA1XV1mA1mA1XV1mA1mA4mA1mA7mAZ1mA2mA1mAImA536j14vW15k92k91k91k98vW1
  5k91k91k92vW11k99k95k91k91k95k9Jk91k91vW11k91k92k91vW11vW11vW11vW11k91k91vW11k91vW11k91vW11k91k9
  1vW11k91k94k91k97k9Z1k92k91k9Ik9531k14yU5hA2hA1hA1hA8yU5hA1hA1hA2yU1hA9hA5hA1hA1hA5hAJhA1hA1yU1h
  A1hA1yU1hA1yU1yU1yU1yU1hA1hA1yU1hA1yU1hA1yU1hA1hA1yU1hA1hA4hA1hA7hAZ1hA2hA1hAIhA531k14_A5Y82Y81Y
  81Y88_A5Y81Y81Y82_A1Y89Y85Y81Y81Y85Y8JY81Y81_A1Y81Y81_A1Y81_A1_A1_A1_A1Y81Y81_A1Y81_A1Y81_A1Y81Y
  81_A1Y81Y84Y81Y87Y8Z1Y82Y81Y8IY8531k14lB5.12.11.11.18lB5.11.11.12lB1.19.15.11.11.15.1J.11.11lB1.
  11.11lB1.11lB1lB1lB1lB1.11.11lB1.11lB1.11lB1.11.11lB1.11.14.11.17.1Z1.12.11.1I.1531k14lT5v82v81v
  81v88lT5v81v81v82lT1v89v85v81v81v85v8Jv81v81lT1v81v81lT1v81lT1lT1lT1lT1v81v81lT1v81lT1v81lT1v81v
  81lT1v81v84v81v87v8Z1v82v81v8Iv8531k14.J5e32e31e31e38.J5e31e31e32.J1e39e35e31e31e35e3Je31e31.J1e
  31e31.J1e31.J1.J1.J1.J1e31e31.J1e31.J1e31.J1e31e31.J1e31e34e31e37e3Z1e32e31e3Ie3531k14_J5f32f31f
  31f38_J5f31f31f32_J1f39f35f31f31f35f3Jf31f31_J1f31f31_J1f31_J1_J1_J1_J1f31f31_J1f31_J1f31_J1f31f
  31_J1f31f34f31f37f3Z1f32f31f3If353205320531k14XK5h32h31h31h38XK5h31h31h32XK1h39h35h31h31h35h3Jh3
  1h31XK1h31h31XK1h31XK1XK1XK1XK1h31h31XK1h31XK1h31XK1h31h31XK1h31h34h31h37h3Z1h32h31h3Ih3531k14YK
  5i32i31i31i38YK5i31i31i32YK1i39i35i31i31i35i3Ji31i31YK1i31i31YK1i31YK1YK1YK1YK1i31i31YK1i31YK1i3
  1YK1i31i31YK1i31i34i31i37i3Z1i32i31i3Ii35320532053A0531k14WK5g32g31g31g38WK5g31g31g32WK1g39g35g3
  1g31g35g3Jg31g31WK1g31g31WK1g31WK1WK1WK1WK1g31g31WK1g31WK1g31WK1g31g31WK1g31g34g31g37g3Z1g32g31g
  3Ig353205320531k14.U5jA2jA1jA1jA8.U5jA1jA1jA2.U1jA9jA5jA1jA1jA5jAJjA1jA1.U1jA1jA1.U1jA1.U1.U1.U1
  .U1jA1jA1.U1jA1.U1jA1.U1jA1jA1.U1jA1jA4jA1jA7jAZ1jA2jA1jAIjA531k14jU5z92z91z91z98jU5z91z91z92jU1
  z99z95z91z91z95z9Jz91z91jU1z91z91jU1z91jU1jU1jU1jU1z91z91jU1z91jU1z91jU1z91z91jU1z91z94z91z97z9Z
  1z92z91z9Iz953Ph14tY15ZB2ZB1ZB1ZB8tY15ZB1ZB1ZB2tY11ZB9ZB5ZB1ZB1ZB5ZBJZB1ZB1tY11ZB1ZB2ZB2tY11tY11
  tY11ZB1ZB1tY11ZB1tY11ZB1tY11ZB1ZB1tY11ZB1ZB4ZB1ZB7ZBZ1ZB3ZBIZB531k14tU5dA2dA1dA1dA8tU5dA1dA1dA2t
  U1dA9dA5dA1dA1dA5dAJdA1dA1tU1dA1dA1tU1dA1tU1tU1tU1tU1dA1dA1tU1dA1tU1dA1tU1dA1dA1tU1dA1dA4dA1dA7d
  AZ1dA2dA1dAIdA531k14xK5.32.31.31.38xK5.31.31.32xK1.39.35.31.31.35.3J.31.31xK1.31.31xK1.31xK1xK1x
  K1xK1.31.31xK1.31xK1.31xK1.31.31xK1.31.34.31.37.3Z1.32.31.3I.35313i2jn12yp1W2to1531k14WB5Z82Z81Z
  81Z88WB5Z81Z81Z82WB1Z89Z85Z81Z81Z85Z8JZ81Z81WB1Z81Z81WB1Z81WB1WB1WB1WB1Z81Z81WB1Z81WB1Z81WB1Z81Z
  81WB1Z81Z84Z81Z87Z8Z1Z82Z81Z8IZ8531k14q75k12k11k11k18q75k11k11k12q71k19k15k11k11k15k1Jk11k11q71k
  11k11q71k11q71q71q71q71k11k11q71k11q71k11q71k11k11q71k11k14k11k17k1Z1k12k11k1Ik1531k14mB5_12_11_
  11_18mB5_11_11_12mB1_19_15_11_11_15_1J_11_11mB1_11_11mB1_11mB1mB1mB1mB1_11_11mB1_11mB1_11mB1_11_
  11mB1_11_14_11_17_1Z1_12_11_1I_153105310534053105310531k14nB5W22W21W21W28nB5W21W21W22nB1W29W25W2
  1W21W25W2JW21W21nB1W21W21nB1W21nB1nB1nB1nB1W21W21nB1W21nB1W21nB1W21W21nB1W21W24W21W27W2Z1W22W21W
  2IW253105310531k14_U5kA2kA1kA1kA8_U5kA1kA1kA2_U1kA9kA5kA1kA1kA5kAJkA1kA1_U1kA1kA1_U1kA1_U1_U1_U1
  _U1kA1kA1_U1kA1_U1kA1_U1kA1kA1_U1kA1kA4kA1kA7kAZ1kA2kA1kAIkA531k14kU5.92.91.91.98kU5.91.91.92kU1
  .99.95.91.91.95.9J.91.91kU1.91.91kU1.91kU1kU1kU1kU1.91.91kU1.91kU1.91kU1.91.91kU1.91.94.91.97.9Z
  1.92.91.9I.9531k14lU5_92_91_91_98lU5_91_91_92lU1_99_95_91_91_95_9J_91_91lU1_91_91lU1_91lU1lU1lU1
  lU1_91_91lU1_91lU1_91lU1_91_91lU1_91_94_91_97_9Z1_92_91_9I_9531k14XB5a82a81a81a88XB5a81a81a82XB1
  a89a85a81a81a85a8Ja81a81XB1a81a81XB1a81XB1XB1XB1XB1a81a81XB1a81XB1a81XB1a81a81XB1a81a84a81a87a8Z
  1a82a81a8Ia8531k14mT5w82w81w81w88mT5w81w81w82mT1w89w85w81w81w85w8Jw81w81mT1w81w81mT1w81mT1mT1mT1
  mT1w81w81mT1w81mT1w81mT1w81w81mT1w81w84w81w87w8Z1w82w81w8Iw8531k14oB5X22X21X21X28oB5X21X21X22oB1
  X29X25X21X21X25X2JX21X21oB1X21X21oB1X21oB1oB1oB1oB1X21X21oB1X21oB1X21oB1X21X21oB1X21X24X21X27X2Z
  1X22X21X2IX253105310531k14pB5Y22Y21Y21Y28pB5Y21Y21Y22pB1Y29Y25Y21Y21Y25Y2JY21Y21pB1Y21Y21pB1Y21p
  B1pB1pB1pB1Y21Y21pB1Y21pB1Y21pB1Y21Y21pB1Y21Y24Y21Y27Y2Z1Y22Y21Y2IY253105310531k14qB5Z22Z21Z21Z2
  8qB5Z21Z21Z22qB1Z29Z25Z21Z21Z25Z2JZ21Z21qB1Z21Z21qB1Z21qB1qB1qB1qB1Z21Z21qB1Z21qB1Z21qB1Z21Z21qB
  1Z21Z24Z21Z27Z2Z1Z22Z21Z2IZ253105310531k14mU5WA2WA1WA1WA8mU5WA1WA1WA2mU1WA9WA5WA1WA1WA5WAJWA1WA1
  mU1WA1WA1mU1WA1mU1mU1mU1mU1WA1WA1mU1WA1mU1WA1mU1WA1WA1mU1WA1WA4WA1WA7WAZ1WA2WA1WAIWA53Rh14uY15aB
  2aB1aB1aB8uY15aB1aB1aB2uY11aB9aB5aB1aB1aB5aBJaB1aB1uY11aB1aB2aB2uY11uY11uY11aB1aB1uY11aB1uY11aB1
  uY11aB1aB1uY11aB1aB4aB1aB7aBZ1aB3aBIaB53t31u40532h14wY15cB2cB1cB1cB8wY15cB1cB1cB2wY11cB9cB5cB1cB
  1cB5cBJcB1cB1wY11cB1cB2cB2wY11wY11wY11cB1cB1wY11cB1wY11cB1wY11cB1cB1wY11cB1cB4cB1cB7cBZ1cB3cBIcB
  531h14vY15bB2bB1bB1bB8vY15bB1bB1bB2vY11bB9bB5bB1bB1bB5bBJbB1bB1vY11bB1bB2bB2vY11vY11vY11bB1bB1vY
  11bB1vY11bB1vY11bB1bB1vY11bB1bB4bB1bB7bBZ1bB3bBIbB54y2k14U5b22b21b21b28U5b21b21b22U1b29b25b21b21
  b25b2Jb21b21U1b21b21U1b21U1U1U1U1b21b21U1b21U1b21U1b21b21U1b21b24b21b27b2Z1b23b2GZl32b253h378dU4
  5X15V727D7p1054v4GB0FZ620C05r8101n85.p2W1.s1Lw3c10GhLd2wh4IWY24pY2q2tw115y4i14vb14m94mM1qq1DA1AD
  A5_74_j1U0104AQaV1aV90181.q11ZU1ZU1A181818189010JA1Au2h_26050303h_21h_2103010O01gs2o10805vw41bi4
  7053318053y32f3l2l40531j14yV5vI2vI1vI1vI8yV5vI1vI1vI2yV1vI9vI5vI1vI1vI5vIJvI1vI1yV1vI1vI1yV1vI1y
  V1yV1yV1yV1vI1vI1yV1vI1yV1vI1yV1vI1vI1yV1vI1vI4vI1vI7vIZ1vI3vIIvI531j14k85m22m21m21m28k85m21m21m
  22k81m29m25m21m21m25m2Jm21m21k81m21m21k81m21k81k81k81k81m21m21k81m21k81m21k81m21m21k81m21m24m21m
  27m2Z1m23m2Im253W44Se13e1.20H0531j14qW15cJ2cJ1cJ1cJ8qW15cJ1cJ1cJ2qW11cJ9cJ5cJ1cJ1cJ5cJJcJ1cJ1qW1
  1cJ1cJ1qW11cJ1qW11qW11qW11qW11cJ1cJ1qW11cJ1qW11cJ1qW11cJ1cJ1qW11cJ1cJ4cJ1cJ7cJZ1cJ3cJIcJ5320531j
  14eW15qA2qA1qA1qA8eW15qA1qA1qA2eW11qA9qA5qA1qA1qA5qAJqA1qA1eW11qA1qA1eW11qA1eW11eW11eW11eW11qA1q
  A1eW11qA1eW11qA1eW11qA1qA1eW11qA1qA4qA1qA7qAZ1qA3qAIqA531j14tW15fJ2fJ1fJ1fJ8tW15fJ1fJ1fJ2tW11fJ9
  fJ5fJ1fJ1fJ5fJJfJ1fJ1tW11fJ1fJ1tW11fJ1tW11tW11tW11tW11fJ1fJ1tW11fJ1tW11fJ1tW11fJ1fJ1tW11fJ1fJ4fJ
  1fJ7fJZ1fJ3fJIfJ531j14uV5hF2hF1hF1hF8uV5hF1hF1hF2uV1hF9hF5hF1hF1hF5hFJhF1hF1uV1hF1hF1uV1hF1uV1uV
  1uV1uV1hF1hF1uV1hF1uV1hF1uV1hF1hF1uV1hF1hF4hF1hF7hFZ1hF3hFIhF531j14rP5yB2yB1yB1yB8rP5yB1yB1yB2rP
  1yB9yB5yB1yB1yB5yBJyB1yB1rP1yB1yB1rP1yB1rP1rP1rP1rP1yB1yB1rP1yB1rP1yB1rP1yB1yB1rP1yB1yB4yB1yB7yB
  Z1yB3yBIyB531j14z25_52_51_51_58z25_51_51_52z21_59_55_51_51_55_5J_51_51z21_51_51z21_51z21z21z21z2
  1_51_51z21_51z21_51z21_51_51z21_51_54_51_57_5Z1_53_5I_5531j14zV5wI2wI1wI1wI8zV5wI1wI1wI2zV1wI9wI
  5wI1wI1wI5wIJwI1wI1zV1wI1wI1zV1wI1zV1zV1zV1zV1wI1wI1zV1wI1zV1wI1zV1wI1wI1zV1wI1wI4wI1wI7wIZ1wI3w
  IIwI531j14.V5xI2xI1xI1xI8.V5xI1xI1xI2.V1xI9xI5xI1xI1xI5xIJxI1xI1.V1xI1xI1.V1xI1.V1.V1.V1.V1xI1xI
  1.V1xI1.V1xI1.V1xI1xI1.V1xI1xI4xI1xI7xIZ1xI3xIIxI531j14aW15zI2zI1zI1zI8aW15zI1zI1zI2aW11zI9zI5zI
  1zI1zI5zIJzI1zI1aW11zI1zI1aW11zI1aW11aW11aW11aW11zI1zI1aW11zI1aW11zI1aW11zI1zI1aW11zI1zI4zI1zI7z
  IZ1zI3zIIzI531j14nW15aJ2aJ1aJ1aJ8nW15aJ1aJ1aJ2nW11aJ9aJ5aJ1aJ1aJ5aJJaJ1aJ1nW11aJ1aJ1nW11aJ1nW11n
  W11nW11nW11aJ1aJ1nW11aJ1nW11aJ1nW11aJ1aJ1nW11aJ1aJ4aJ1aJ7aJZ1aJ3aJIaJ531j14rW15dJ2dJ1dJ1dJ8rW15d
  J1dJ1dJ2rW11dJ9dJ5dJ1dJ1dJ5dJJdJ1dJ1rW11dJ1dJ1rW11dJ1rW11rW11rW11rW11dJ1dJ1rW11dJ1rW11dJ1rW11dJ1
  dJ1rW11dJ1dJ4dJ1dJ7dJZ1dJ3dJIdJ531j14fW15rA2rA1rA1rA8fW15rA1rA1rA2fW11rA9rA5rA1rA1rA5rAJrA1rA1fW
  11rA1rA1fW11rA1fW11fW11fW11fW11rA1rA1fW11rA1fW11rA1fW11rA1rA1fW11rA1rA4rA1rA7rAZ1rA3rAIrA531j14k
  W15XJ2XJ1XJ1XJ8kW15XJ1XJ1XJ2kW11XJ9XJ5XJ1XJ1XJ5XJJXJ1XJ1kW11XJ1XJ1kW11XJ1kW11kW11kW11kW11XJ1XJ1k
  W11XJ1kW11XJ1kW11XJ1XJ1kW11XJ1XJ4XJ1XJ7XJZ1XJ3XJIXJ53J7Ccf1J0Ecf1VsV2sVDsVp1_2532j14lW15YJ2YJ1YJ
  1YJ8lW15YJ1YJ1YJ2lW11YJ9YJ5YJ1YJ1YJ5YJJYJ1YJ1lW11YJ1YJ1lW11YJ1lW11lW11lW11lW11YJ1YJ1lW11YJ1lW11Y
  J1lW11YJ1YJ1lW11YJ1YJ4YJ1YJ7YJZ1YJ3YJIYJ531j14gW15sA2sA1sA1sA8gW15sA1sA1sA2gW11sA9sA5sA1sA1sA5sA
  JsA1sA1gW11sA1sA1gW11sA1gW11gW11gW11gW11sA1sA1gW11sA1gW11sA1gW11sA1sA1gW11sA1sA4sA1sA7sAZ1sA3sAI
  sA531j14_V5qE2qE1qE1qE8_V5qE1qE1qE2_V1qE9qE5qE1qE1qE5qEJqE1qE1_V1qE1qE1_V1qE1_V1_V1_V1_V1qE1qE1_
  V1qE1_V1qE1_V1qE1qE1_V1qE1qE4qE1qE7qEZ1qE3qEIqE531j14wV5jF2jF1jF1jF8wV5jF1jF1jF2wV1jF9jF5jF1jF1j
  F5jFJjF1jF1wV1jF1jF1wV1jF1wV1wV1wV1wV1jF1jF1wV1jF1wV1jF1wV1jF1jF1wV1jF1jF4jF1jF7jFZ1jF3jFIjF531j
  14vV5iF2iF1iF1iF8vV5iF1iF1iF2vV1iF9iF5iF1iF1iF5iFJiF1iF1vV1iF1iF1vV1iF1vV1vV1vV1vV1iF1iF1vV1iF1v
  V1iF1vV1iF1iF1vV1iF1iF4iF1iF7iFZ1iF3iFIiF531j14ZE5.62.61.61.68ZE5.61.61.62ZE1.69.65.61.61.65.6J.
  61.61ZE1.61.61ZE1.61ZE1ZE1ZE1ZE1.61.61ZE1.61ZE1.61ZE1.61.61ZE1.61.64.61.67.6Z1.63.6I.6531j14xV5u
  I2uI1uI1uI8xV5uI1uI1uI2xV1uI9uI5uI1uI1uI5uIJuI1uI1xV1uI1uI1xV1uI1xV1xV1xV1xV1uI1uI1xV1uI1xV1uI1x
  V1uI1uI1xV1uI1uI4uI1uI7uIZ1uI3uIIuI531j14.25W62W61W61W68.25W61W61W62.21W69W65W61W61W65W6JW61W61.
  21W61W61.21W61.21.21.21.21W61W61.21W61.21W61.21W61W61.21W61W64W61W67W6Z1W63W6IW6531j14WW15yI2yI1
  yI1yI8WW15yI1yI1yI2WW11yI9yI5yI1yI1yI5yIJyI1yI1WW11yI1yI1WW11yI1WW11WW11WW11WW11yI1yI1WW11yI1WW1
  1yI1WW11yI1yI1WW11yI1yI4yI1yI7yIZ1yI3yIIyI531j14hW15tA2tA1tA1tA8hW15tA1tA1tA2hW11tA9tA5tA1tA1tA5
  tAJtA1tA1hW11tA1tA1hW11tA1hW11hW11hW11hW11tA1tA1hW11tA1hW11tA1hW11tA1tA1hW11tA1tA4tA1tA7tAZ1tA3t
  AItA531j14bW15.I2.I1.I1.I8bW15.I1.I1.I2bW11.I9.I5.I1.I1.I5.IJ.I1.I1bW11.I1.I1bW11.I1bW11bW11bW11
  bW11.I1.I1bW11.I1bW11.I1bW11.I1.I1bW11.I1.I4.I1.I7.IZ1.I3.II.I531j14iW15uA2uA1uA1uA8iW15uA1uA1uA
  2iW11uA9uA5uA1uA1uA5uAJuA1uA1iW11uA1uA1iW11uA1iW11iW11iW11iW11uA1uA1iW11uA1iW11uA1iW11uA1uA1iW11
  uA1uA4uA1uA7uAZ1uA3uAIuA531j14jW15vA2vA1vA1vA8jW15vA1vA1vA2jW11vA9vA5vA1vA1vA5vAJvA1vA1jW11vA1vA
  1jW11vA1jW11jW11jW11jW11vA1vA1jW11vA1jW11vA1jW11vA1vA1jW11vA1vA4vA1vA7vAZ1vA3vAIvA531j14cW15_I2_
  I1_I1_I8cW15_I1_I1_I2cW11_I9_I5_I1_I1_I5_IJ_I1_I1cW11_I1_I1cW11_I1cW11cW11cW11cW11_I1_I1cW11_I1c
  W11_I1cW11_I1_I1cW11_I1_I4_I1_I7_IZ1_I3_II_I531j14pW15bJ2bJ1bJ1bJ8pW15bJ1bJ1bJ2pW11bJ9bJ5bJ1bJ1b
  J5bJJbJ1bJ1pW11bJ1bJ1pW11bJ1pW11pW11pW11pW11bJ1bJ1pW11bJ1pW11bJ1pW11bJ1bJ1pW11bJ1bJ4bJ1bJ7bJZ1bJ
  3bJIbJ531j14sW15eJ2eJ1eJ1eJ8sW15eJ1eJ1eJ2sW11eJ9eJ5eJ1eJ1eJ5eJJeJ1eJ1sW11eJ1eJ1sW11eJ1sW11sW11sW
  11sW11eJ1eJ1sW11eJ1sW11eJ1sW11eJ1eJ1sW11eJ1eJ4eJ1eJ7eJZ1eJ3eJIeJ15b12Drq1vAai4532j14mW15ZJ2ZJ1ZJ
  1ZJ8mW15ZJ1ZJ1ZJ2mW11ZJ9ZJ5ZJ1ZJ1ZJ5ZJJZJ1ZJ1mW11ZJ1ZJ1mW11ZJ1mW11mW11mW11mW11ZJ1ZJ1mW11ZJ1mW11Z
  J1mW11ZJ1ZJ1mW11ZJ1ZJ4ZJ1ZJ7ZJZ1ZJ3ZJIZJ531j14XW15rE2rE1rE1rE8XW15rE1rE1rE2XW11rE9rE5rE1rE1rE5rE
  JrE1rE1XW11rE1rE1XW11rE1XW11XW11XW11XW11rE1rE1XW11rE1XW11rE1XW11rE1rE1XW11rE1rE4rE1rE7rEZ1rE3rEI
  rE531j14YW15sE2sE1sE1sE8YW15sE1sE1sE2YW11sE9sE5sE1sE1sE5sEJsE1sE1YW11sE1sE1YW11sE1YW11YW11YW11YW
  11sE1sE1YW11sE1YW11sE1YW11sE1sE1YW11sE1sE4sE1sE7sEZ1sE3sEIsE531j14aE5_62_61_61_68aE5_61_61_62aE1
  _69_65_61_61_65_6J_61_61aE1_61_61aE1_61aE1aE1aE1aE1_61_61aE1_61aE1_61aE1_61_61aE1_61_64_61_67_6Z
  1_63_6I_6531j14bE5W72W71W71W78bE5W71W71W72bE1W79W75W71W71W75W7JW71W71bE1W71W71bE1W71bE1bE1bE1bE1
  W71W71bE1W71bE1W71bE1W71W71bE1W71W74W71W77W7Z1W73W7IW7531j14hE5Y72Y71Y71Y78hE5Y71Y71Y72hE1Y79Y75
  Y71Y71Y75Y7JY71Y71hE1Y71Y71hE1Y71hE1hE1hE1hE1Y71Y71hE1Y71hE1Y71hE1Y71Y71hE1Y71Y74Y71Y77Y7Z1Y73Y7
  IY7531j14cE5c62c61c61c68cE5c61c61c62cE1c69c65c61c61c65c6Jc61c61cE1c61c61cE1c61cE1cE1cE1cE1c61c61
  cE1c61cE1c61cE1c61c61cE1c61c64c61c67c6Z1c63c6Ic6531j14dW15WJ2WJ1WJ1WJ8dW15WJ1WJ1WJ2dW11WJ9WJ5WJ1
  WJ1WJ5WJJWJ1WJ1dW11WJ1WJ1dW11WJ1dW11dW11dW11dW11WJ1WJ1dW11WJ1dW11WJ1dW11WJ1WJ1dW11WJ1WJ4WJ1WJ7WJ
  Z1WJ3WJIWJ531j14ZW15tE2tE1tE1tE8ZW15tE1tE1tE2ZW11tE9tE5tE1tE1tE5tEJtE1tE1ZW11tE1tE1ZW11tE1ZW11ZW
  11ZW11ZW11tE1tE1ZW11tE1ZW11tE1ZW11tE1tE1ZW11tE1tE4tE1tE7tEZ1tE3tEItE531j14dE5X72X71X71X78dE5X71X
  71X72dE1X79X75X71X71X75X7JX71X71dE1X71X71dE1X71dE1dE1dE1dE1X71X71dE1X71dE1X71dE1X71X71dE1X71X74X
  71X77X7Z1X73X7IX7531j14iE5Z72Z71Z71Z78iE5Z71Z71Z72iE1Z79Z75Z71Z71Z75Z7JZ71Z71iE1Z71Z71iE1Z71iE1i
  E1iE1iE1Z71Z71iE1Z71iE1Z71iE1Z71Z71iE1Z71Z74Z71Z77Z7Z1Z73Z7IZ7531j14jE5a72a71a71a78jE5a71a71a72j
  E1a79a75a71a71a75a7Ja71a71jE1a71a71jE1a71jE1jE1jE1jE1a71a71jE1a71jE1a71jE1a71a71jE1a71a74a71a77a
  7Z1a73a7Ia7531j14eE5d62d61d61d68eE5d61d61d62eE1d69d65d61d61d65d6Jd61d61eE1d61d61eE1d61eE1eE1eE1e
  E1d61d61eE1d61eE1d61eE1d61d61eE1d61d64d61d67d6Z1d63d6Id6531j14fE5e62e61e61e68fE5e61e61e62fE1e69e
  65e61e61e65e6Je61e61fE1e61e61fE1e61fE1fE1fE1fE1e61e61fE1e61fE1e61fE1e61e61fE1e61e64e61e67e6Z1e63
  e6Ie6531j14kE5b72b71b71b78kE5b71b71b72kE1b79b75b71b71b75b7Jb71b71kE1b71b71kE1b71kE1kE1kE1kE1b71b
  71kE1b71kE1b71kE1b71b71kE1b71b74b71b77b7Z1b73b7Ib7531j14gE5f62f61f61f68gE5f61f61f62gE1f69f65f61f
  61f65f6Jf61f61gE1f61f61gE1f61gE1gE1gE1gE1f61f61gE1f61gE1f61gE1f61f61gE1f61f64f61f67f6Z1f63f6If65
  3a56Cq1X1q1VX42X4DX4p10531j14zA4Zq11e42e41e41e48zA5e41e41e42zAAe45e41e41e45e4Je41e41zA1e41e41zA1
  e41zA1zA1zA1zA1e41e41zA1e41zA1e41zA1e41e41zA1e41e44e41e47e4Z1e43e4Ie453e56Cj1X1j1Vj32j3Dj3p1053b
  16ChPX1hPVYE2YEDYEp1j554i5k14w45y62y61y61y68w41y64y61y63w41y61y6Dy62y65y6Jy61y61w41y61y61w41y61w
  41w41w41w41y61y61w41y61w41y61w41y61y61w41y61y64y61y67y6Z1y6Iy61y62y6P0541j14x45z62z61z61z68x41z6
  4z61z63x41z61z6Dz62z65z6Jz61z61x41z61z61x41z61x41x41x41x41z61z61x41z61x41z61x41z61z61x41z61z64z6
  1z67z6Z1z6Iz61z62z653u17Cyi1J0Eyi1Vsb12sb1Dsb1p1e8538j14z45r72r71r71r78z45r71r71r72z41r79r75r71r
  71r75r7Jr71r71z41r71r71z41r71z41z41z41z41r71r71z41r71z41r71z41r71r71z41r71r74r71r77r7Z1r73r7Ir75
  31j14.45s72s71s71s78.45s71s71s72.41s79s75s71s71s75s7Js71s71.41s71s71.41s71.41.41.41.41s71s71.41s
  71.41s71.41s71s71.41s71s74s71s77s7Z1s73s7Is753Y21_405368M06y6408y66y6X3y6F0105368M06z6408z66z6X3
  z6F010531j14h25Z52Z51Z51Z58h25Z51Z51Z52h21Z59Z55Z51Z51Z55Z5JZ51Z51h21Z51Z51h21Z51h21h21h21h21Z51
  Z51h21Z51h21Z51h21Z51Z51h21Z51Z54Z51Z57Z5Z1Z53Z5IZ515Z21Doq11511Dpq11511Dsq154w19B0B_5604_58060X
  30F_51_5152K4vx14A3ap31A108ASzz1z1tr11tr1BWg21Wr11Wr1Y10Sop2z1zz2Hzz21zz2UWs2_1010151K4070c18z1w
  _11w_1AuW31vW318183w51w51w59rY31lY2l10z1ad3Had31ad3Thq21xs2151Bk3bo21bo2AyW31zW3GvY31wY3i3dd3Hdd
  31dd3Tmq21et254k19B0BW6604W68060X30FW61W615h2W11424344494Qi44444k1u11v1AyW11yW1A4141ym11ym124141
  4141414141414141414k3ss3Hss31ss3U015i24j1wr1j2888b5053NAB01us11us1E01us13q19us16us1l2rb1I053NAB0
  1ts11ts1E01ts13e49ts16ts1l2Zq1I054G9B0Bb2604b28060X30Fb21b25411_4fl353PAB01ss11ss1E01ss13j19ss16
  ss1l2dY1I054l5BB0FZ620C0601cs2b1.s1x10Gk2z2lz1q2mz154Y7BB0FZ620C0601vc4b1.s1x10GaAz2nz1q2oz154Y7
  BB0FZ620C0601wc4b1.s1x10GbAz2pz1q2qz154J9B0BZ5604Z58060X30FZ51Z515B2Drq1vAai415B2Drq1vAai454R9B0
  Br7604r78060X30Fr71r754R9B0Bs7604s78060X30Fs71s754v59B0Bv2604v28060X30Fv21zl254z6AB0H0C0601ps2b1
  .s1x109vZ27r2n5my115H1Doq115H1Doq1530k14l75p23p21p28l75e21p23l7Ap25p21p21p25p2Jp21p21l71p21p21l7
  1p21l71l71l71l71p21p21zL1p21l71p21l71p21p21l71p21p24p21p2611p2Z1p2Lp211a2uw4Mlp1q2nl1531d14oA5a4
  3qA1qA8d46qA3fBAqA5i21qA1f25p1JgP1tP1dM1YB1YB1aO1yO1XP1wA1wA1oA1yL1kL2v51tB1wB1tB1wB1v51fB1fQ1v5
  4Y11Y17qAZ1b4LgQ5316ChQ1hQEhQDhQ6hQx1hQ5316CWS1WSEWSDWS6WSx1WS5316CwP1wPEwPDwP6wPx1wP5316CrA1rAE
  rADrA6rAx1rA531P9C3C1C8R6C3RAC6CPC1C4R1C1R7C1R1C1R1C1C1R1C1CCCZ1CLC53194Rb2R1C1C4R1R1R1C2W_1532C
  UfBk1aO1yO1XP7v51tB1wB1tB1wB1v51fB2v55311d2gP5344f2R1C1C9W_15333i2R1C1R5311i2aO5311j2yO5342l2R1R
  53839a4Cd4t3b45354s2R1C1R1C5381e2tP53D6CsA1sAEsADsA6sAx1sA5316CZS1ZSEZSDZS6ZSx1ZS5316CtA1tAEtADt
  A6tAx1tA5316CuA1uAEuADuA6uAx1uA5316CvA1vAEvADvA6vAx1vA5316CXS1XSEXSDXS6XSx1XS5316CYS1YSEYSDYS6YS
  x1YS5316CaS1aSEaSDaS6aSx1aS15S1Dpq115S1Dpq11521Dsq11521Dsq1535Z14j75v33v31v38j76v33j7Av36v3Pv31v
  31j71v31v31j71v31j71j71j71j71v31v31pd31v31j71v31j71v31v31j71v31v3Cv3Z1v3Lv3536W14j88k41k4Ek43j8A
  k46k4Pk41k41j81k41k41j81k41j81j81j81j81k41k41dd31k41j81k41j81k41k41j81k41k4Ck4u1k45376C_R1_RE_RD
  _R6_Rx1_R531b14k75Z33Z31Z38k76Z33k7AZ36Z3PZ31Z31k71Z31Z31k71Z31k71k71k71k71Z31Z31zd31Z31k71Z31k7
  1Z31Z31k71Z31Z34Z31Z37Z3Z1Z3LZ354.3CB0H0C05r8101n85.p2r1w3c10Gl2d2wh4IWY2545CQZ6E05r8101n8b1md3D
  n31n3z1v3d2wh4M.X2q2nw1534Z14u88jd110E01el22l9A.m160PlM1cN1vK1W91W91nL1xL1.L1x81x81u81mK1gK1oK1e
  51r91u91r91u91e51l91xN1e5C0u1yNj4be5y1bw4546F9zDCqD5Z6E05r8101n8b1ad3Dn31n3g1.DJk4d2wh4M.X2q2nw1
  541V4_C8_R1_RE_R3WEf1lV1zW11hS1tD1tD1yS1xT1aU1eD1eD1_C1lR1eQ1sR1t91XF1gF1XF1gF1t91WE1tX11t9C_Rs1
  _R2sX1546AQZ6E05r8101n8b1wd3h2Z3d2wh4M.X2q2nw154e18QZ6E060c1sRh2p2d2wh4M.X2q2nw15435CqA1qAEqAk2q
  As1qA5415ChQ1hQEhQk2hQs1hQ5415CWS1WSEWSk2WSs1WS5415CwP1wPEwPk2wPs1wP5415CrA1rAErAk2rAs1rA54W1L4_
  CMZ6E05r8101n8QhS1tD1tD4eD1eD1_C1lR1eQ1sRDn31n3z1Cd2wh4M.X2q2nw154t88B0H0C060l20I0Fy51y554294Rb2
  R1C1C4R1R1R1C2z.1543CUWEk1yS1xT1aU7t91XF1gF1XF1gF1t91WE2t95411d2lV5454f2R1C1C9z.15433i2R1C1R5411
  i2yS5411j2xT5442l2R1R54839zDCqDt3.D5454s2R1C1R1C5481e2zW154E5CsA1sAEsAk2sAs1sA5415CZS1ZSEZSk2ZSs
  1ZS15o2Ek3pk11pk1Axg21yg25818189xh21g.1i3cd3Hcd31cd3T01Yt25425CtA1tAEtAk2tAs1tA5415CuA1uAEuAk2uA
  s1uA5415CvA1vAEvAk2vAs1vA5415CXS1XSEXSk2XSs1XS5415CYS1YSEYSk2YSs1YS15s2340t341454h98B0H0C060l20I
  0Fz51z5158Ak3mo21mo2AWX31XX3GYZ31ZZ3i3qd3Hqd31qd3Uvt215_24Cdf11df1vA01054j98B0H0C060l20I0F.51.55
  465CaS1aSEaSk2aSs1aS53c5B8nx1301vL1vLE01vL309vL6vLl2po1I054k96B0H0C060X30Gu354g88B0H0C060c1.s1x1
  0Ga2n5sy154k99B0FZ620C0601rc4W30Gp8z2ty153478dU4vS1vSFvSCvS6vSl2rZ254n21u40930j14zB5zB3u71u78zB5
  u71u71u72zBAu75u71u71u75u7Ju71u71zB1u71u71zB1u71zB1zB1zB1zB1u71u71zB1u71zB1u71zB1u71u71zB1u71zB4
  u71u7611u74qX2VzBLu71154l96B0H0C060X30Gp954_87B0H03j19060X30Gj115F2Drq1vAai454_87B0H03q19060X30G
  q153b36CYZ11YZ1FYZ1309YZ16YZ153b36CXc11Xc1FXc1309Xc16Xc153Z36CXZ11XZ1FXZ1309XZ16XZ154y3C8ot1301j
  51j5Ej510C060j17q10Fj51j554x87B0H0C060X309vZ27_254E3q2.Ba2yk2u5054.57B0H0C060X309vZ27o354A7Cfy11
  fy1EX640y1j3Z2X61X65497Cgy11gy1Ec840y1X4Z2c81c853v12Szt2o8_g515R1Doq153_16Ckh11kh1Ekh1Dkh16kh1x1
  05332Sdl2o8fi51531Dpq15322SWt2o8lj51521Dsq154y13D0Ip2r1zX154y1S4XL90HtN1qAe1rf11ii11qY11ZM1ZM1ob
  11ld11de11oL1oL1XL1uX11mV1zX11nD1bO1fO1bO1fO1nD1tN1lj11nDa2wj15415ChQFhQ4hQg2hQs1hQ5415CWSFWS4WS
  g2WSs1WS5415CwPFwP4wPg2wPs1wP5415CrAFrA4rAg2rAs1rA54p1C4XL90ICg1qY11ZM1ZM4oL1oL1XL1uX11mV1zX154x
  14D0ICq1mV1a_1542CUtNk1ob11ld11de17nD1bO1fO1bO1fO1nD1tN2nD5411d2rf15444f2R1C1C9a_15433i2R1C1R541
  1i2ob15411j2ld15442l2R1R54839zDCqDt3.D5454s2R1C1R1C5481e2ii154D5CsAFsA4sAg2sAs1sA5415CZSFZS4ZSg2
  ZSs1ZS5415CtAFtA4tAg2tAs1tA5415CuAFuA4uAg2uAs1uA5415CvAFvA4vAg2vAs1vA5415CXSFXS4XSg2XSs1XS5415CY
  SFYS4YSg2YSs1YS5415CaSFaS4aSg2aSs1aS53Z548uc130H0p3054y23D0Iv3r1td354x23D0Ik4r1hd35445C_RF_R4_Rg
  2_Rs1_R54x23D0IZ3r1Xe354x16ClW210ExW2k20s1xW2h6bd454Y34j1l22l25l2o5012lBf11mY12mY1102mY14mY12_m1
  1Yy36mY1UmY14mY1HsLe1ow11ow1AmY11mY11mY11mY12mY11mY11mY11mY11mY11mY11mY11mY11mY11mY11mY11mY1l2jw
  4P06Ze5Djw410101jw41Ze51Ze5T010W2mw45432RyW2a4yW25412RzW2a4zW254r16Cq1X1q1VX42X4DX4p1054WB8B0FZ6
  20C060X30Gn9z2yY254n57B0H03e49060X30Ge454w16Cj1X1j1Vj32j3Dj3p1012w1H4uT8lK1rZ1E0MpVz1_81_8BWk11.
  C1.C6Xk1S010u2bq3Hbq31bq3Uyr215a57B0Y1wr1j28888lY2m10j30151a11X12X11m52X14X13A6X1Qm54X14X1k1m51m
  5Am51m5AX11X11X11X12X11X11X11X11X11X11X11X11X11X11X11X11X11X1JAv20H01054bB8B0FZ620C060X30GZKz2uZ
  215g2E4wx1404A1Aa1.z1z1vr11vr1ByX21Xr11Xr1x3c_2Hc_21c_2UZs253a2B8kr14jp110Fik4Cjp15cf110UsV2sVl1
  kr1H_253f27D0Fj5HhP10UYE2YEW2j554eB6B0H0C060X30Gm75413i2hn12xp1W2so154_67B0H0359060X30G554O48dr1
  W1060n3554gB9B0H0C060Uhn12xp1W2so110GgJ54H5Cmu21fu1Eqw1a4qw1h605412RhQa4hQ5413Coj4FwPa4wP5412Cnj
  41rc215p5D4xx170c1_z1z1ur11ur1BYg21Zr11Zr1.10z1Y.2HY.21Y.2Ubs21514w38888g.1z40152B4yx1j1X.1z1_m2
  1_m2Bk_21_q11_q1x3a.2Ha.21a.2Uds21519k3Wn21Wn2B8888uY3j3b.2Hb.21b.2U015GB4o_1j1.X2z1bw11bw1BZg21
  dv11dv1x3g_2Hg_21g_2Ufs253h27D0Fmj4Hlm110UcY12cY1W2X653k27D0Fqj4Hmm110UeY12eY1W2c853I58f_14kp1Gl
  k4Ckp1r2f_1156B4zt1j1av1z1bn21bn2Bp_21xm11xm1x3h.2Hh.21h.2Uhs21519k3dn21dn2B8888XZ3j3i.2Hi.21i.2
  U015g44Cdf11df1vA01015X34j1wr1j2888b50158B4p_1j1XY2z1cw11cw1Bcg21ev11ev1x3n_2Hn_21n_2Uis254F3Cfu
  1Fmw1a4mw154V5D09v2901v2_3nb253j45D0E01v3I0c1nd353j45D0E01k4I0c1bd353h26C_RG_RC_RX2_Rb60y1054pB6
  B0H0C060X30GfA54pB6B0H0C060X30Gj554u21u4054pB7B0H0C0601sc4W30Gi954pB6B0H0C060X30Gp35411j1dc254x2
  1u4054pB6B0H0C060X30GeA53r45D0E01Z3I0c1xd353t55D0E01p2I0c1oK53B4CqAGqACqAX2qA5314ChQGhQChQX2hQ12
  k12DqZ1vAvw45324CWSGWSCWSX2WS54uB6B0H0C060X30GX654f64Qk2w1b8e50q2054uB7B0H0C0601xc4W30GxA54uB6B0
  H0C060X30GcA54g1280N553m13Cey1Gkj4Cey153m138mx14XX1SXX154xB6B0H0C060X30Gc854xB6B0H0C060X30GlA54x
  B7B0H0C060Uhn1Z20Gj954xB6B0H0C060X30Gt754xB6B0H0C060X30Ge854xB6B0H0C060X30Gx954xB9B0H0C060Uhn12x
  p1W2so110GeB54xB7B0H0C05dc210X30GbC54xB7B0H0C060W3lg310Gq954xB7B0H0C05dc210X30GdB54xB6B0H0C060X3
  0GW854xB6B0H0C060X30Gy954xB6B0H0C060X30Gv954_C6B0H0C060X30Gx753M4CwPGwPCwPX2wP5314CrAGrACrAX2rA5
  3b6E4u890E01CI0RvK1W91W94x81x81u81mK1gK1oK53j66D0E01CI0b1gK1..1533B9C3C9R7CCCVC1CKCDCZ1CLC5311d2
  lM5344f2R1C1C9..15333i2R1C1R5311i2nL5311j2xL5342l2R1R53839a4Cd4t3b45354s2R1C1R1C5381e2cN53D4CsAG
  sACsAX2sA5314CZSGZSCZSX2ZS5314CtAGtACtAX2tA5314CuAGuACuAX2uA5314CvAGvACvAX2vA5314CXSGXSCXSX2XS53
  14CYSGYSCYSX2YS54nC6B0H0C060X30GX854lC6B0H0C060X30GY354nC6B0H0C060X30Gn7542054nC6B0H0C060X30GYA5
  4nC6B0H0C060X30Go954nC6B0H0C060X30GZA54wD6B0H0C060X30G554k16Ct7X1t7VvO2vODvOp1t754n87B0H03m29060
  X30Gm254dA7B0H0C060W3W810Ge154rC6B0H0C060X30GgA54rC6B0H0C060X30GiA54rC6B0H0C060X30GXA54rC6B0H0C0
  60X30Gs354kC6B0H0C060X30GX354rC6B0H0C060X30Gv75431l1ou254rC6B0H0C060X30Gz35413i2hn12xp1W2so154rC
  6B0H0C060X30Gf954rC6B0H0C060X30Gg9547054rC6B0H0C060X30Gh954eE6B0H0C060X30Gy754sC6B0H0C060X30GmA5
  4sC7B0H0C060Uhn1Z20Gk954sC6B0H0C060X30GhA54sC6B0H0C060X30GY854gC6B0H0C060X30G.154sC6B0H0C060X30G
  v854qC6B0H0C060X30Ge354qC6B0H0C060X30Gf35420542054qC6B0H0C060X30Gh354qC6B0H0C060X30Gi35420542054
  A054qC6B0H0C060X30Gg35420542054X11k4Y354tC6B0H0C060X30GjA54tC6B0H0C060X30Gz954tC9B0H0C060Uhn12xp
  1W2so110GZB54.E6B0H0C060X30Gz754uC6B0H0C060X30GdA54uC6B0H0C060X30G.35413i2hn12xp1W2so153q14CaSGa
  SCaSX2aS54vC6B0H0C060X30GZ854pC6B0H0C060X30Gk154tC6B0H0C060X30G_15410541054405410541054tC6B0H0C0
  60X30GW25410541054vC6B0H0C060X30GkA54vC6B0H0C060X30G.954vC6B0H0C060X30G_954vC6B0H0C060X30Ga854vC
  6B0H0C060X30Gw854tC6B0H0C060X30GX25410541054tC6B0H0C060X30GY25410541054tC6B0H0C060X30GZ254105410
  54vC6B0H0C060X30GWA54vC9B0H0C060Uhn12xp1W2so110GaB54v948dY1E0A0.3012y31DpZ154s56Ccn1Fcn13kd31cn1
  g20s1cn11221Dst153e76CX610E0Dj16j1n3054j28Dk2Ek240GsW25qW2d17Z2k21k253e76Cc810E0Dq16q1n3054k26Dt
  7Et740y17Z2t71t754Z71u4054XD9B0H0C060Uhn12xp1W2so110GcB54XD9B0H0C060Uhn12xp1W2so110GbB1281Dvt153
  W53Css1Gfy1Css153W53Cus1Ggy1Cus154p24RW840_3W81W85414RY3p3Y3GY31Y31251Dxt153b54Cfy1G0Ify1l2yA53b
  54Cgy1G0Igy1l2qT54n73804hP1hP54w26Dyi1Ee840y1k8Z2e81e854r56Dcf1E_240y17Z2_21_254hD6B0H0C060X30G5
  12d6S1oY12oY13oY14oY13sY46oY1UoY14oY1a2oY11oY11oY11oY12oY11oY11oY11oY11oY11oY11oY11oY11oY11oY11o
  Y11oY1l2fh4i1fh43fh4W3ih454j428ov15053t45Bp2H0C0i1.X1x1p253t4U4ZL7qAH02yMA0Vtf11li11rY11aM1aM1pb
  11md11fe11pL1pL1ZL1vX11nV1.X11oD1cO1gO1cO1gO1oD1yM1oj11oDo1qAIqj15314BhQ1hQz2hQc1hQ5314BWS1WSz2W
  Sc1WS5314BwP1wPz2wPc1wP5314BrA1rAz2rAc1rA53v3E4ZL7CH0C0X1rY11aM1aM4pL1pL1ZL1vX11nV1.X1x1C53X46BC
  H0C0h1nV1b_1x1C533B9C2C1C9Ro1C1CKCDCZ1C3CIC5311d2tf15344f2R1C1C9b_15333i2R1C1R5311i2pb15311j2md1
  5342l2R1R53839a4Cd4t3b45354s2R1C1R1C5381e2li153D4BsA1sAz2sAc1sA5314BZS1ZSz2ZSc1ZS5314BtA1tAz2tAc
  1tA5314BuA1uAz2uAc1uA5314BvA1vAz2vAc1vA5314BXS1XSz2XSc1XS5314BYS1YSz2YSc1YS5314BaS1aSz2aSc1aS53z
  55Bv3H0C0i1ud3x1v353z55Bk4H0C0i1id3x1k45334B_R1_Rz2_Rc1_R53r55BZ3H0C0i1Ye3x1Z353X158uc1N09565n30
  54Y118054128dr1N054h72f3l2l4054268050Djj4Eiy1i1_c3f1ae353m55Sey1H5V727W2053158mx14XX1GXX1CXX1r2p
  o153q86Ciq110E0D06na2w9ni454lE6B0H0C060X30GvI54c46Cm2X1m2Vk82k8Dk8p1054b31k4054lE6B0H0C060X30GcJ
  542054X72ChQ1054mE6B0H0C060X30GqA54mE6B0H0C060X30GfJ5391k1Xo35314Chy11hy1X1hy1w9012o1T1pY12pY13p
  Y14pY12rv21rv26pY1UpY14pY1a2pY11pY11pY11pY12pY11pY11pY11pY11pY11pY11pY11pY11pY11pY11pY11pY1l2i.4
  i1i.43i.4W3054pE6B0H0C060X30GhF12q74n14f2484b501211n1pV5355Cjm110Ecn2J0y9cu353H58f_14kp1Gkp1Ckp1
  r2f_153158nk24ws1Gws1Cws1r2nk254uE6B0H0C060X30GyB15W7D4vx14A4A108Av2gw11gw1Cbh21bh2Y10v2tq3Htq31
  tq353T5Bud21ud2z20c1ud2X6vk254vE6B0H0C060X30GwI54vE6B0H0C060X30GxI54vE6B0H0C060X30GzI54vE6B0H0C0
  60X30GaJ94z95S0C060_1Xg2o1u715d7B4wx1404A1AX3hw11hw1Cch21ch2x3vq3Hvq31vq315.74j1wr1j2888b5053j65
  804hPS06hPl2.S53E2Dar2E054.E6B0H0C060X30GdJ54.E6B0H0C060X30GrA53w35CkRGla2C0X20_7sj454_E6B0H0C06
  0X30GXJ54S3Ckh1Fkh1a4kh15362D0X1il254WF6B0H0C060X30GYJ54WF6B0H0C060X30GsA54WF6B0H0C060X30GqE120h
  11fk12fk11mk12fk14fk12ub11hc46fk1Qi44wW34fk1Hbb2Tu11v1416__11__1AkW31xW31Wh21Wh22fk11iY21iY21iY2
  1gY31fk11fk11fk11fk11fk11fk11fk1P1l2lx46hj3Elx41lx42hj31hj3Tdr21wr2_1mx454XF6B0H0C060X30GjF54N6D
  0Dpj4509td1i1Zd3f1be354YF6B0H0C060X30GiF54YF6B0H0C060X30G.654A3Ccn1Fcn1a4cn153U1Rqn253T58lr14mSG
  mSCmSr2lr153105310531054eF6B0H0C060X30GuI53f13Cqc21qc2X1qc215X184xx1g3yr11yr1Cdh21dh2x3Zr3HZr31Z
  r315h81g4015284yx1g3lw11lw1Csh21sh2x3xt3Hxt31xt354hF6B0H0C060X30GyI54hF6B0H0C060X30GtA54hF6B0H0C
  060X30G.I54hF6B0H0C060X30GuA54hF6B0H0C060X30GvA54hF6B0H0C060X30G_I54hF6B0H0C060X30GbJ54hF6B0H0C0
  60X30GeJ15b184o_1g3zr11zr1Cfh21fh2x3dr3Hdr31dr315p83w3888b5053w38C5F01k2C57uZ15tZ1g301053v36C5F0
  1t7C5s301053j37D0E01e8Iyi1l2iTX101053e168dU4j5G0CvS6j5l2053Y11k1jl254nF6B0H0C060X30GZJ54nF6B0H0C
  060X30GrE54nF6B0H0C060X30GsE54nF6B0H0C060X30G_654nF6B0H0C060X30GW754nF6B0H0C060X30GY754nF6B0H0C0
  60X30Gc65382e1cl26053_A3Sut2C0c805311Svt25311Siq253a11Rtn253X158ok24xs1Gxs1Cxs1r2ok253158xv14lY1
  GlY1ClY1r2xv15310531015W184sa2g3_r11_r1Cgh21gh2x3ir3Hir31ir315Y194sa2j1ag2z1q_11q_1Cb.11b.1x3e.2
  He.21e.215c96k3Zn21Zn2R0j3f.2Hf.21f.21515k3fn21fn2e4k.2Hk.21k.254.F6B0H0C060X30GWJ15S84ta2g3Xs11
  Xs1Cih21ih2x3kr3Hkr31kr315S94ta2j1bg2z1r_11r_1Cc.11c.1x3m_2Hm_21m_215g9340t341415f93w3888b5054YG
  6B0H0C060X30GtE54YG6B0H0C060X30GX754YG6B0H0C060X30GZ754YG6B0H0C060X30Ga754YG6B0H0C060X30Gd654YG6
  B0H0C060X30Ge653L1Swt25311Sfr25311Spr253J58pk24ys1Gys1Cys1r2pk215J84om2g3Ys11Ys1Ckh21kh2x3pr3Hpr
  31pr315H94om2j1s_2z1gn21gn2Cpg21pg2x3l.2Hl.21l.215194zx1j1Y.1z1hn21hn2CYr11Yr1x3m.2Hm.21m.21515k
  3in21in2e4n.2Hn.21n.21515k3kn21kn2e4p.2Hp.21p.215J84pm2g3Zs11Zs1Clh21lh2x3rr3Hrr31rr315H94pm2j1u
  _2z1nn21nn2Cqg21qg2x3o_2Ho_21o_215194ua2j1gg2z1s_11s_1Cd.11d.1x3p_2Hp_21p_254kG6B0H0C060X30Gb754
  kG6B0H0C060X30Gf653C1S.h45311SWi45311Sxt25311Sxr215E84Xq3g3as11as1Cmh21mh2x3vr3Hvr31vr315B94rm2j
  1._2z1ln21ln2Cog21og2x3q.2Hq.21q.215B84Yq3g3bs11bs1Cnh21nh2x3wr3Hwr31wr315A94qm2j1fW3z1pn21pn2Cw
  g21wg2x3q_2Hq_21q_253z33Cjp1Gjp1Cjp115584zt1g3js11js1Cth21th2x3Wu3HWu31Wu312m32DqZ1vAvw41211n1pV
  54q25D09jN901jN_3qb253rB58ft150E015I015584zx1g3ks11ks1Cuh21uh2x3Yu3HYu31Yu354v15D09kN901kN_3ub25
  4v15D09lN901lN_3vb254v15D09iO901iO_3zb253X238uc14ku2Y1ku254w15D09mN901mN_3.b215684rm2g3ls11ls1Cv
  h21vh2x3Zu3HZu31Zu354e15D09nN901nN_3_b254e15D09jO901jO_3Wc254e15D09kO901kO_3Xc254e15D09oN901oN_3
  Yc254e15D09pN901pN_3Zc215684bq3g3ms11ms1Cwh21wh2x3au3Hau31au354T5D09lO901lO_3ac254T5D09qN901qN_3
  bc212J1DpZ11211n1pV54d36CjN1jNEjN40_3jN1jN53l238ot1W10r2.S53oB6C_210E0D565n3054i26CkN1kNEkN40_3k
  N1kN54i26ClN1lNElN40_3lN1lN54i26CiO1iOEiO40_3iO1xq254i26CmN1mNEmN40_3mN1mN54v16CnN1nNEnN40_3nN1n
  N54v16CjO1jOEjO40_3jO1zq254v16CkO1kOEkO40_3kO1.q254v16CoN1oNEoN40_3oN1oN54v16CpN1pNEpN40_3pN1pN5
  4j16ClO1lOElO40_3lO1_q254j16CqN1qNEqN40_3qN1qN12G1Dst11211n1pV94f42D0IzB53Z15804j5G035F554g638mv
  14j5J053f96Ce810E0Dm26m2n301261Dvt11211n1pV53e1580451hPFhP_175346Cm21yi1Fyi130F0j1k81241Dxt11211
  n1pV15nC88m94mM1qq180r3010x6vw41bi4151T1V2V1k52V4V9VQk54V4Vk1k51k5Ak51k5AV1V1V1V2V1V1V1V1V1V1V1V
  1V1V1V1V53n96CW810E0De16W8n305313CY3Y1Y3W3Y31542Drq1vAai41542Drq1vAai453_63CX6Y1X6l2053_63Cc8Y1c
  8l2054sE3CX610I054rE3Cc810I015A1Doq115A1Doq11521Dpq11521Dpq11521Dsq11521Dsq153p52k1ja2w9.w454iE3
  C0J0r1YU54iES4pJ80IpK10e1ib11yb11gV1jK1jK1ZY11.Y11lZ11dK1dK1pJ1_T1uS1YU1dC1WL1gL1WL1gL1dC1pK1kd1
  1dCa2od15413RhQk2hQs1hQ5413RWSk2WSs1WS5413RwPk2wPs1wP5413RrAk2rAs1rA54aEC4pJ80J0g1gV1jK1jK4dK1dK
  1pJ1_T1uS1YU53a52Sia2iAix454jE4C0J0q1uS1_.153X41k1al2545A9CCR6Ci1C1CKCDCZ1CJC2C5411d2ib15464f2R1
  C1C9_.15433i2R1C1R5411i2ZY15411j2.Y15442l2R1R54939zDCqDt3.D5454s2R1C1R1C5481e2yb154F3RsAk2sAs1sA
  5413RZSk2ZSs1ZS5413RtAk2tAs1tA5413RuAk2uAs1uA5413RvAk2vAs1vA5413RXSk2XSs1XS5413RYSk2YSs1YS53I1k1
  bl25423RaSk2aSs1aS53M2Scc2iAWy45312Sqa2iAey45312Sva2iAqy45312Sya2iAuy45312S_a2iAxy454pE3C0J0r1od
  354pE3C0J0r1cd35483R_Rk2_Rs1_R54pE3C0J0r1yd315g384p_1g3es11es1Coh21oh2x3xs3Hxs31xs353k31Sws21528
  4ua2g3fs11fs1Cph21ph2x3Xt3HXt31Xt35321Sxs25311Sys215384qm2g3gs11gs1Cqh21qh2x3Yt3HYt31Yt35321Szs2
  15284Zq3g3hs11hs1Crh21rh2x3Zt3HZt31Zt353h358qv135H0C0d3553x41Run25311Rvn254q728ov1505321Rmn254F3
  Rit2k20s1it212_84CXm11Xm1vA01053v75Cmq11mq1E0D06mq112i6T1gk12gk13gk14gk12qv21qv26gk1UcX34gk1a2tW
  31dX31Yh21Yh22gk11kY21kY21kY21iY31gk11gk11gk11gk11gk11gk11gk1e3j.4Kj.41j.4W3012d7340t341453748uc
  1Mwv11zo1W4053U3Cwq1Y1wq1y9015a7340t341412WKT4aq34040905010D09e_2Z10Qzm21zm29_n11l.21m.21lg21lg2
  101vz2CsY31tY3K0u2_z26ks28lo23_z21_z2TZq21Ys2w1xq215_6340t34145343Cqu21qu2X1015nH6v3818888010y40
  1555k3iw11iw1e4ar3Har31ar315d6340t341454E2Rfh4a4eh412E4804ub11du1vApx45362Cfu11fu15312Crc21rc215
  75k3.o11.o1e4hd3Hhd31hd35452Rmw1a4mw153f458ft145G5C5r2054f85D09vD901vDf2015g4340t341415i268A4A1A
  8AnA01012K2DqZ1vAvw453W13Ckh1Gkh1kA015f4340t34145322Ccn1Gcn115u6340t341415k6340t341415d4340t3414
  15v5340t34141515k3Ws11Ws1e4jr3Hjr31jr315s5340t341415b4340t341415g5340t341415c5340t341415.4340t34
  1415z4340t341454I7CvD1vD905vD50.3vD1vD12G1DpZ193t36Bu7G040k2qX2Y1zBG053i34Ce1Ge130F05311k4Y31241
  Dst153f46Ccf1J0906cf1j17Y1bK54XD3CW810I05412CY3Y4Y353hG4D0HYd31YZ1W4053gG4D0HXd31Xc1W4053gG4D0HW
  d31XZ1W401271Dvt153y338uc1K0C053a76Ck210F0C06k2l2b853a76Ct710F0C06t7l2vO1241Dxt154a418054dG3C_21
  0I054kD3Ce810I053fI5Cts110F0Its1l2053w34Cj11lm1R06053w34Cq11mm1R06054h12Rmq2a4mq25412RXZ4a4WZ453
  l12Ccn11cn115k2340t341415j2340t341415h2340t341415g2340t341453nF3C0G0u1gS53nFS4hD80G02bFf1_W11wX1
  1jS1lE1lE1cT1cV1hV1sD1sD1hD1xR1xQ1gS1pA1pI1sI1pI1sI1pA1bF1jY11pAa2kY15312e1hQX2hQ5312e1WSX2WS531
  2e1wPX2wP5312e1rAX2rA53pEC4hD80G0j1jS1lE1lE4sD1sD1hD1xR1xQ1gS53xE4C0G0t1xQ1Y_153399CCRJCVC1CKCDC
  Z1CLC5311d2_W15344f2R1C1C9Y_15333i2R1C1R5311i2cT5311j2cV5342l2R1R53839a4Cd4t3b45354s2R1C1R1C5381
  e2wX153D2e1sAX2sA5312e1ZSX2ZS5312e1tAX2tA5312e1uAX2uA5312e1vAX2vA5312e1XSX2XS5312e1YSX2YS5312e1a
  SX2aS53Q3e106p2c1ZX153QS4rKQWMA06qAPWf11uf11bY11uL1uL1gb11_b11yc11aL1aL1rK1WX11dV1ZX11ZD1_M1fN1_
  M1fN1ZD1WM1mi11ZDa2ni15312k1hQx1hQ5312k1WSx1WS5312k1wPx1wP5312k1rAx1rA53IC4rKa106CRbY11uL1uL4aL1
  aL1rK1WX11dV1ZX153Q4e106Cb1dV1Z_153399CCRPCPC1CKCDCZ1CLC5311d2Wf15344f2R1C1C9Z_15333i2R1C1R5311i
  2gb15311j2_b15342l2R1R53839a4Cd4t3b45354s2R1C1R1C5381e2uf153D2k1sAx1sA5312k1ZSx1ZS5312k1tAx1tA53
  12k1uAx1uA5312k1vAx1vA5312k1XSx1XS5312k1YSx1YS5312k1aSx1aS53.22Chy1Ghy15312Cwq1Gwq153pH3C0G0u1rd
  353pH3C0G0u1fd353V2e1_RX2_R53hH3C0G0u1_d35343e106v3c1sd35343e106k4c1gd35392k1_Rx1_R5343e106Z3c1W
  e353X448ot14XX11XX1X1XX153n638rv1N0F053c13Vp2F0c1_X153c1S4bLQuN1qAF0Pvf11oi11sY11bM1bM1qb11nd11g
  e11qL1qL1bL1xX11oV1_X11pD1dO1hO1dO1hO1pD1uN1tj11pDa2vj15312VhQg2hQ5312VWSg2WS5312VwPg2wP5312VrAg
  2rA53UC4bLRCF0RsY11bM1bM4qL1qL1bL1xX11oV1_X153c14VCF0b1oV1c_153399CCRACe1C1CKCDCZ1CLC5311d2vf153
  44f2R1C1C9c_15333i2R1C1R5311i2qb15311j2nd15342l2R1R53839a4Cd4t3b45354s2R1C1R1C5381e2oi153D2VsAg2
  sA5312VZSg2ZS5312VtAg2tA5312VuAg2uA5312VvAg2vA5312VXSg2XS5312VYSg2YS5312VaSg2aS53W13Vv3F0c1vd353
  W13Vk4F0c1jd35332V_Rg2_R53W13VZ3F0c1Ze353V38fr1W106553m458qv135H0C0d3553238sv1N5F012b54n14f2484b
  501211n1pV53h12e1oa4X2053e12k1hy3x1012x43CWm11Wm1vA053W4e14Zm15ZZ13qE9Zm15ZZ12qE2Zm1AqE5ZZ12ZZ15
  ZZ1JZZ11ZZ11Zm11ZZ11ZZ11Zm11ZZ11Zm11Zm11Zm11Zm11ZZ11ZZ11Zm11ZZ11Zm11ZZ11Zm11ZZ11ZZ11Zm11ZZ11ZZ14
  ZZ11ZZ17ZZ1Z1ZZ120JZZ115X55Q0w10c1YY28qCb5Yt215Y53Q0w10s1g.153eKABvd21vd210De21040g20c1vd2G0z2zp
  11294804ub11du1vApx41211n1pV536d14am15aZ13c69am15aZ12c62am1Ac65aZ12aZ15aZ1JaZ11aZ11am11aZ11aZ11a
  m11aZ11am11am11am11am11aZ11aZ11am11aZ11am11aZ11am11aZ11aZ11am11aZ11aZ14aZ11aZ17aZ1Z1aZ1LaZ1531d1
  4bm15bZ13rE9bm15bZ12rE2bm1ArE5bZ12bZ15bZ1JbZ11bZ11bm11bZ11bZ11bm11bZ11bm11bm11bm11bm11bZ11bZ11bm
  11bZ11bm11bZ11bm11bZ11bZ11bm11bZ11bZ14bZ11bZ17bZ1Z1bZ1LbZ1531d14cm15cZ13sE9cm15cZ12sE2cm1AsE5cZ1
  2cZ15cZ1JcZ11cZ11cm11cZ11cZ11cm11cZ11cm11cm11cm11cm11cZ11cZ11cm11cZ11cm11cZ11cm11cZ11cZ11cm11cZ1
  1cZ14cZ11cZ17cZ1Z1cZ1LcZ115Y55Q0w10c1Xh28qCb5kt215Z53Q0w10s1zY31527k3fo21fo2BfX3z3jd3Hjd31jd3Unt
  21526k3go21go2R.Y3j3kd3Hkd31kd3535d14dm15dZ13d69dm15dZ12d62dm1Ad65dZ12dZ15dZ1JdZ11dZ11dm11dZ11dZ
  11dm11dZ11dm11dm11dm11dm11dZ11dZ11dm11dZ11dm11dZ11dm11dZ11dZ11dm11dZ11dZ14dZ11dZ17dZ1Z1dZ1LdZ153
  1d14em15eZ13e69em15eZ12e62em1Ae65eZ12eZ15eZ1JeZ11eZ11em11eZ11eZ11em11eZ11em11em11em11em11eZ11eZ1
  1em11eZ11em11eZ11em11eZ11eZ11em11eZ11eZ14eZ11eZ17eZ1Z1eZ1LeZ1531d14fm15fZ13tE9fm15fZ12tE2fm1AtE5
  fZ12fZ15fZ1JfZ11fZ11fm11fZ11fZ11fm11fZ11fm11fm11fm11fm11fZ11fZ11fm11fZ11fm11fZ11fm11fZ11fZ11fm11
  fZ11fZ14fZ11fZ17fZ1Z1fZ1LfZ11557k3uo21uo2BlX3z3yd3Hyd31yd3Uzt21556k3vo21vo2RbZ3j3zd3Hzd31zd31527
  k3_o21_o2BoX3z3Ze3HZe31Ze3U_t21526k3Wp21Wp2RcZ3j3ae3Hae31ae3535d14gm15gZ13f69gm15gZ12f62gm1Af65g
  Z12gZ15gZ1JgZ11gZ11gm11gZ11gZ11gm11gZ11gm11gm11gm11gm11gZ11gZ11gm11gZ11gm11gZ11gm11gZ11gZ11gm11g
  Z11gZ14gZ11gZ17gZ1Z1gZ1LgZ115s74Cdf11df1vA01015g548m94df11df18053_138d_14vL1053U28dUN053Z13Uld31
  cn1g2053u43C_2Y1_2l2053s45CYZ1F03X410Fus153i42CXc1S053s45CXZ1F03j310Fss112fn1b14y530103020107050
  2010B0404020101020G090101030703010101010709010101010106y5Ec912fn1b14z5301030201070502010B0404020
  101020G090101030703010101010709010101010106z5Ed912fn1b14.5301030201070502010B0404020101020G09010
  1030703010101010709010101010106.5Ee95373C51cf1X1053_43R0Je1n305312CY3Y4Y353i9280r3053s44R0Je8j1k
  8a2053f11e1nb453f11k1rv353k22V0r1YX153k2R4qKQ_L10e1.e11sf11aY11tL1tL1fb11.b11xc11YL1YL1qK1.W11bV
  1YX11YD1tM1dN1tM1dN1YD1_L1ji11YDa2ki15311f3hQ5311f3WS5311f3wP5311f3rA53c2B4qKR0g1aY11tL1tL4YL1YL
  1qK1.W11bV1YX153k23V0q1bV1X_153389CCRo1C1CKCDCZ1CLC5311d2.e15344f2R1C1C9X_15333i2R1C1R5311i2fb15
  311j2.b15342l2R1R53839a4Cd4t3b45354s2R1C1R1C5381e2sf153D1f3sA5311f3ZS5311f3tA5311f3uA5311f3vA531
  1f3XS5311f3YS5311f3aS53S1e1tc453l22V0r1qd353l22V0r1ed35341f3_R53l22V0r1.d35351e1of45311e1xf45311
  e1_f45311e1Yg45311e1bg454v738mv140J05321e1ub45311e1le453A8LqD5Z6Jr82n8w10z3wh4M.X2q2wp212r2340t3
  41412y95ClK1rZ1E0Z401012y95ClK1rZ1E0Z401012l23CWm11Wm1vA01211n1pV12n2340t341415Z26k3lo21lo2R0j3p
  d3Hpd31pd31515k3ew11ew1e4td3Htd31td31515k3qo21qo2e4ud3Hud31ud31515k3to21to2e4xd3Hxd31xd31515k3zo
  21zo2e4Xe3HXe31Xe31515k3ap21ap2e4ee3Hee31ee31515k3bp21bp2e4fe3Hfe31fe31515k3cp21cp2e4ge3Hge31ge3
  1515k3dp21dp2e4he3Hhe31he31515k3hp21hp2e4ke3Hke31ke31515k3ip21ip2e4le3Hle31le31515k3jp21jp2e4me3
  Hme31me31515k3mp21mp2e4pe3Hpe31pe31515k3np21np2e4qe3Hqe31qe31515k3op21op2e4re3Hre31re31515k3qp21
  qp2e4se3Hse31se312L2DqZ1vAvw412L2DqZ1vAvw41221DpZ11221DpZ11221Dst11221Dst11221Dvt11221Dvt193m74B
  010JzBm301231Dxt11231Dxt153i11f3053u838dU40F053g838rv140G053138fr1W106553138sv1N5F053128_Y2N0650
  d11pX12pX11vp12pX14pX13vp16pX18nl4Ivp14pX14pX1Qvp11vp1Jvp11vp1416vp11vp19vp11pX11pX11pX11pX12pX1
  1pX11pX11pX11pX11pX11pX11pX11pX11pX11pX11pX11pX11pX1Ksr13112Z13CWm11Wm1vA0652b11rX12rX11wp12rX14
  rX13wp16rX18ol4Iwp14rX14rX1Qwp11wp1Jwp11wp1Awp11wp19wp11rX11rX11rX11rX12rX11rX11rX11rX11rX11rX11
  rX11rX11rX11rX11rX11rX11rX11rX1Kjp312ei1V4mO304030705m_130F03lb3102040G0901010D01010101070901010
  101010Kp5n3ms2q2aZ5652b11cX12cX11bl12cX14cX13bl16cX18bl1Ibl14cX14cX1Qbl11bl1Jbl11bl1Abl11bl19bl1
  1cX11cX11cX11cX12cX11cX11cX11cX11cX11cX11cX11cX11cX11cX11cX11cX11cX11cX1Kbl1651b11dX12dX11cl12dX
  14dX13cl16dX18cl1Icl14dX14dX1Qcl11cl1Jcl11cl1Acl11cl19cl11dX11dX11dX11dX12dX11dX11dX11dX11dX11dX
  11dX11dX11dX11dX11dX11dX11dX11dX1Kcl1651b11eX12eX11dl12eX14eX13dl16eX18dl1Idl14eX14eX1Qdl11dl1Jd
  l11dl1Adl11dl19dl11eX11eX11eX11eX12eX11eX11eX11eX11eX11eX11eX11eX11eX11eX11eX11eX11eX11eX1Kdl165
  1b11gX12gX11fl12gX14gX13fl16gX18fl1Ifl14gX14gX1Qfl11fl1Jfl11fl1Afl11fl19fl11gX11gX11gX11gX12gX11
  gX11gX11gX11gX11gX11gX11gX11gX11gX11gX11gX11gX11gX1Kfl1651b11fX12fX11el12fX14fX13el16fX18el1Iel1
  4fX14fX1Qel11el1Jel11el1Ael11el19el11fX11fX11fX11fX12fX11fX11fX11fX11fX11fX11fX11fX11fX11fX11fX1
  1fX11fX11fX1Kel1651b11iX12iX11hl12iX14iX13hl16iX18hl1Ihl14iX14iX1Qhl11hl1Jhl11hl1Ahl11hl19hl11iX
  11iX11iX11iX12iX11iX11iX11iX11iX11iX11iX11iX11iX11iX11iX11iX11iX11iX1Khl1651b11hX12hX11gl12hX14h
  X13gl16hX18gl1Igl14hX14hX1Qgl11gl1Jgl11gl1Agl11gl19gl11hX11hX11hX11hX12hX11hX11hX11hX11hX11hX11h
  X11hX11hX11hX11hX11hX11hX11hX1Kgl1651b11jX12jX11il12jX14jX13il16jX18il1Iil14jX14jX1Qil11il1Jil11
  il1Ail11il19il11jX11jX11jX11jX12jX11jX11jX11jX11jX11jX11jX11jX11jX11jX11jX11jX11jX11jX1Kil1651b1
  1kX12kX11jl12kX14kX13jl16kX18jl1Ijl14kX14kX1Qjl11jl1Jjl11jl1Ajl11jl19jl11kX11kX11kX11kX12kX11kX1
  1kX11kX11kX11kX11kX11kX11kX11kX11kX11kX11kX11kX1Kjl1651b11lX12lX11kl12lX14lX13kl16lX18kl1Ikl14lX
  14lX1Qkl11kl1Jkl11kl1Akl11kl19kl11lX11lX11lX11lX12lX11lX11lX11lX11lX11lX11lX11lX11lX11lX11lX11lX
  11lX11lX1Kkl1651b11mX12mX11ll12mX14mX13ll16mX18ll1Ill14mX14mX1Qll11ll1Jll11ll1All11ll19ll11mX11m
  X11mX11mX12mX11mX11mX11mX11mX11mX11mX11mX11mX11mX11mX11mX11mX11mX1Kll1651b11nX12nX11ml12nX14nX13
  ml16nX18ml1Iml14nX14nX1Qml11ml1Jml11ml1Aml11ml19ml11nX11nX11nX11nX12nX11nX11nX11nX11nX11nX11nX11
  nX11nX11nX11nX11nX11nX11nX1Kml1651b11oX12oX11nl12oX14oX13nl16oX18nl1Inl14oX14oX1Qnl11nl1Jnl11nl1
  Anl11nl19nl11oX11oX11oX11oX12oX11oX11oX11oX11oX11oX11oX11oX11oX11oX11oX11oX11oX11oX1Knl1651b11bX
  12bX11al12bX14bX13al16bX18al1Ial14bX14bX1Qal11al1Jal11al1Aal11al19al11bX11bX11bX11bX12bX11bX11bX
  11bX11bX11bX11bX11bX11bX11bX11bX11bX11bX11bX1Kal1651b11U2U1b22U4U3b26U8b2Ib24U4UQb21b2Jb21b2Ab21
  b29b21U1U1U1U2U1U1U1U1U1U1U1U1U1U1U1U1U1UKlp3651b11s12s11v22s14s13v26s18v2Iv24s14s1Qv21v2Jv21v2A
  v21v29v21s11s11s11s12s11s11s11s11s11s11s11s11s11s11s11s11s11s1Kkp36521_4b26521_4fp3651b11h22h21Z
  52h24h23Z56h28Z5IZ54h24h2QZ51Z5JZ51Z5AZ51Z59Z51h21h21h21h22h21h21h21h21h21h21h21h21h21h21h21h21h
  21h2KZ553O18XZ253vO5C010E040W406551_4hp353318ZZ253118cZ253118dZ253118eZ253118fZ253118gZ253118YZ2
  53118aZ212g14CXm11Xm1vA01012g14CXm11Xm1vA01012y4E4n_18010R09jY2z1wk11wk1BZh21ar11ar1x3mq3Hmq31mq
  3U_r262Cb11aX12aX11Yo12aX14aX13Yo16aX18Yo1IYo14aX14aX1QYo11Yo1JYo11Yo1AYo11Yo19Yo11aX11aX11aX11a
  X12aX11aX11aX11aX11aX11aX11aX11aX11aX11aX11aX11aX11aX11aX1K0621a11qX12qX11Zo12qX14qX13Zo16qX18Zo
  1IZo14qX14qX1QZo11Zo1JZo11Zo1AZo11Zo19Zo11qX11qX11qX11qX12qX11qX11qX11qX11qX11qX11qX11qX11qX11qX
  11qX11qX11qX11qX11254804ub11du1vApx41254804ub11du1vApx4623a11cL2cL1eb12cL4cL3eb16cL8eb1Ieb14cL4c
  LQeb11eb1Jeb11eb1Aeb11eb19eb11cL1cL1cL1cL2cL1cL1cL1cL1cL1cL1cL1cL1cL1cL1cL1cL1cL1cL621062I1_4062
  M1_4053X55B010EZ6r30j3yY212A840j142xa2d24141464b5012144n_1l10e2ar11ar11211n1jY212jUG803010905010
  D0i10b1j.21k.2301X.2CpY31lY2K0R012384ra2g3Yp11Yp1Chv11hv1x3Wr3HWr31Wr31211n1ah212D3CWm11Wm1vA012
  D3CWm11Wm1vA0125F4yx1j1X.1z1Xn21Xn2Ap.21q.21_q11_q12Y.2CxY31yY3i3c.2Hc.21c.2Ues212584nm2g3.r11.r
  1Cf.11f.1x3fr3Hfr31fr31211n1kY312284Wq3g3jw11jw1Cjh21jh2x3mr3Hmr31mr312ij1S4yX1304030707010F0402
  040G0901010D01010101070901010101010KaD12D1p1012A340t34141215k3yr11yr1e4Zr3HZr31Zr312cS9804090501
  0D0i10f10Y101225k3zr11zr1e4dr3Hdr31dr3129340t34141215k3_r11_r1e4ir3Hir31ir31215k3Ws11Ws1e4jr3Hjr
  31jr3125Ak3jo21jo2A.W31_W3G_Y31WZ3i3nd3Hnd31nd3Urt21225k3Xs11Xs1e4kr3Hkr31kr312C340t34141215k3Ys
  11Ys1e4pr3Hpr31pr31215k3cW21cW2e4qr3Hqr31qr31215k3Zs11Zs1e4rr3Hrr31rr31215k3dW21dW2e4sr3Hsr31sr3
  1215k3as11as1e4vr3Hvr31vr31215k3bs11bs1e4wr3Hwr31wr31215k3fW21fW2e4zr3Hzr31zr31215k3gW21gW2e4.r3
  H.r31.r312ak1W14cS304030705030F0402040G090101030A010101010709010101010101zk4Jq8o3ks2a3xq21225k3e
  s11es1e4xs3Hxs31xs31215k3fs11fs1e4Xt3HXt31Xt31215k3gs11gs1e4Yt3HYt31Yt31215k3hs11hs1e4Zt3HZt31Zt
  31215k3iW21iW2e4bt3Hbt31bt31215k3js11js1e4Wu3HWu31Wu31215k3ks11ks1e4Yu3HYu31Yu31215k3ls11ls1e4Zu
  3HZu31Zu31215k3ms11ms1e4au3Hau31au31215k3jW21jW2e4bu3Hbu31bu3120Z16kq11lq13vk18rk11sk11qk1SXl11Y
  l11zk1s11GM6lk15Wu17.k16cu11_k11Wl1G1AoPBhP1hPb1hP3hP2hPRoe1IhPAhP1hP1hP1jP2hP2hP2hP3hPy1ju312o6
  7C010D0E0i10b1fY34012245il3.3Xu1D0SeQ12PD4zp3g3ym21ym2A81jW31kg21kg2E010i3.z2H.z21.z2UXs212oQAC0
  10D010D0i10b1n.240X1010126ADzg4D0w10Qhq21hq2E0w3Zw3HZw31Zw3Rrj4123A4mm2g3.m21.m2BYY21ng21ng2x3Z.
  2HZ.21Z.2Ucs212_SB804010D010D0i10b1r.240X10101237Dih4X3xe11xe1e4ne4Hne41ne4RyX51211Dkh41211Dmh41
  211Dnh412vc1L40101jb21kb21010201010D010D0i10f106Yq2Dbs2E01090103jY412B15ol31237DxY4X3Xr21Xr2e4bb
  4Hbb41bb4Rhx41241DYZ41211DaZ41211DcZ41211DdZ412745ul3.3cs1D0SyY412J3v3494b5012v13C010R012_14Q0w1
  0c1Zh23012_17v381Wg248488010y4012K3v3898b5012_14Q0w10c1jY330122A4xx1j1_z1z1ur11ur1BYg21Zr11Zr1x3
  Y.2HY.21Y.2122A4mm2j14z1iw11iw1B41eh21eh2x3ar3Har31ar3122A4yx1j1X.1z1Yn21Yn2Bl_21_q11_q1x3d.2Hd.
  21d.2121A4o_1j1.X2z1bw11bw1BZg21dv11dv1x3g_2Hg_21g_212N3v3898b50121A4sa2j1ag2z1q_11q_1Bn_21b.11b
  .1x3e.2He.21e.212t164_p3M0w10d1hh21hh210122A4zt1j1av1z1an21an2Bo_21xm11xm1x3g.2Hg.21g.21216k3en2
  1en2Bq_2z3j.2Hj.21j.2121A4ta2j1bg2z1r_11r_1Br_21c.11c.1x3m_2Hm_21m_2121A4p_1j1XY2z1cw11cw1Bcg21e
  v11ev1x3n_2Hn_21n_2121A4zx1j1Y.1z1jn21jn2Bt_21Yr11Yr1x3o.2Ho.21o.2121A4ua2j1gg2z1s_11s_1Bv_21d.1
  1d.1x3p_2Hp_21p_212L1D012yj1T4db1304030705030F0402040G090101030A01010101070901010101010KmD12_35Q
  0L0b10e50q2012wk1U4hZ130403070502010F0402040G090101030A01010101070901010101010KjD12lj1T4ea130403
  0705030F0402040G090101030A01010101070901010101010KlD12vk1U4iZ130403070502010F0402040G090101030A0
  1010101070901010101010KkD12P540j14f24141412i23Q0w10f101215k3gw11gw1e4tq3Htq31tq312AA40j18z1w_11w
  _1B81818x3ad3Had31ad31225k3hw11hw1e4vq3Hvq31vq312l23Q0w10f1012l23Q0w10f101245k3pk11pk1e4cd3Hcd31
  cd31211w3YY212R340t34141226k3co21co2BeX3z3ed3Hed31ed31245k3do21do2e4fd3Hfd31fd312p23Q0w10f1012p2
  3Q0w10f1012p23Q0w10f101246k3.o11.o1BXh2z3hd3Hhd31hd31211w3812U340t34141225k3eo21eo2e4id3Hid31id3
  1216k3ho21ho2BgX3z3ld3Hld31ld31225k3io21io2e4md3Hmd31md31216k3ko21ko2BhX3z3od3Hod31od31216k3no21
  no2BiX3z3rd3Hrd31rd31235k3oo21oo2e4sd3Hsd31sd312w23Q0w10f1012w23Q0w10f1012w23Q0w10f101246k3ew11e
  w1BjX3z3td3Htd31td31211w3812y23Q0w10f101226k3ro21ro2BkX3z3vd3Hvd31vd31235k3so21so2e4wd3Hwd31wd31
  216k3wo21wo2BmX3z3.d3H.d31.d31225k3xo21xo2e4_d3H_d31_d31216k3yo21yo2BnX3z3We3HWe31We31225k3.o21.
  o2e4Ye3HYe31Ye31216k3Xp21Xp2BpX3z3be3Hbe31be31225k3Yp21Yp2e4ce3Hce31ce31216k3Zp21Zp2BqX3z3de3Hde
  31de312b33Q0w10f1012b33Q0w10f1012b33Q0w10f101246k3fp21fp2BrX3z3ie3Hie31ie31265k3gp21gp2e4je3Hje3
  1je31216k3kp21kp2BsX3z3ne3Hne31ne31225k3lp21lp2e4oe3Hoe31oe312f33Q0w10f1012f33Q0w10f1012f33Q0w10
  f101215k3yW11yW1e4ss3Hss31ss312f33Q0w10f1012f33Q0w10f1012f33Q0w10f1012f33Q0w10f1012f33Q0w10f1012
  15k3lw11lw1e4xt3Hxt31xt312g33Q0w10f1012g33Q0w10f1012g33Q0w10f1012g33Q0w10f1012g33Q0w10f10120Q1Yb
  32mZ13mZ14mZ19mZ1UmZ14mZ1p11HmZ11mZ11mZ11mZ12mZ11mZ11mZ11mZ11mZ11mZ11mZ11mZ11mZ11mZ11mZ11mZ1P1d5
  _f5720M8b83k21k21k2DxW12k2Ck25k21k21uZ14k21tZ1Ok22k26kS7k2D1Lb8Hk2K1w2zv2q2Zx2721I8iV3aA1aA1aAFa
  ACaA5aA1aA1Xs24aA1sr2OaA2aADaAY1iVHaAk3.v2q2ax2721I8jV3bA1bA1bAFbACbA5bA1bA1Ys24bA1tr2ObA2bADbAY
  1jVHbAk3_v2q2bx2720L8lB1.12.11.11.1D.12.1C.15.11.11.14.11.1O.12.16.17.1D1LlBH.1K1721J8lT1v82v81v
  81v8Dv82v8Cv85v81v81v84v81v8Ov82v86v87v8Y1lTHv8721J8.J1e32e31e31e3De32e3Ce35e31e31e34e31e3Oe32e3
  6e37e3Y1.JHe3721J8_J1f32f31f31f3Df32f3Cf35f31f31f34f31f3Of32f36f37f3Y1_JHf372207220721J8XK1h32h3
  1h31h3Dh32h3Ch35h31h31h34h31h3Oh32h36h37h3Y1XKHh3721J8YK1i32i31i31i3Di32i3Ci35i31i31i34i31i3Oi32
  i36i37i3Y1YKHi37220722072A0721J8WK1g32g31g31g3Dg32g3Cg35g31g31g34g31g3Og32g36g37g3Y1WKHg37220722
  0721J8q71k12k11k11k1Dk12k1Ck15k11k11k14k11k1Ok12k16k17k1Y1q7Hk1721J8mB1_12_11_11_1D_12_1C_15_11_
  11_14_11_1O_12_16_17_1Y1mBH_172107210724072107210721J8nB1W22W21W21W2DW22W2CW25W21W21W24W21W2OW22
  W26W27W2Y1nBHW272107210721J8mT1w82w81w81w8Dw82w8Cw85w81w81w84w81w8Ow82w86w87w8Y1mTHw8721J8oB1X22
  X21X21X2DX22X2CX25X21X21X24X21X2OX22X26X27X2Y1oBHX272107210721J8pB1Y22Y21Y21Y2DY22Y2CY25Y21Y21Y2
  4Y21Y2OY22Y26Y27Y2Y1pBHY272107210721J8qB1Z22Z21Z21Z2DZ22Z2CZ25Z21Z21Z24Z21Z2OZ22Z26Z27Z2Y1qBHZ27
  2107210150K8X53X51X51X53X51X54X55X51X5DX55X5VX52r46X5K1LX5HX5GX51X531151I8Y53Y51Y51Y53Y51Y54Y55Y
  51Y5DY55Y5VY52s46Y5f1Y5HY5GY51Y5720J1qa33tW22sZ35t_13wZ3CZf1LuW25Zf1W1Zf1Fc31d341w11Dqz42Wd51Wd5
  b2ku3Krz4Alu3120J8tK3r21r21r2Fr2Cr25r21r21eu14r2Pr22r26kS7r2D1Lr2Hr2K1k5_w272f159k2H0w10e50q2072
  1H8pT1xA2xA1xA1xAFxACxA5xA1xA1fc44xA1db4OxA2xADxAY1pTHxA1232z30RtZ2722H8hJ1Y32Y31Y31Y3FY3CY35Y31
  Y31Y34Y31Y3OY32Y3DY3Y1hJHY37210721H8nT1o92o91o91o9Fo9Co95o91o91o94o91o9Oo92o9Do9Y1nTHo9121I8zJ1s
  32s31s31s3Fs3Cs35s31s31y64s310Os32s36s37s3Y1s3Hs3121I8aK1X32X31X31X3DX32X3CX35X31X31X34X3PX32X36
  07X3Y1X3HX3121H8eT1v72v71v71v7Dv72v7Cv75v71v71v74v7Pv72v7Dv7Y1v7Hv71231l1z6122H8fU1f92f91f91f9Df
  92f9Cf95f91f91f94f9Pf92f9Df9Y1f9Hf9121H8gU1g92g91g91g9Dg92g9Cg95g91g91g94g9Pg92g9Dg9Y1g9Hg912501
  21H8hU1h92h91h91h9Dh92h9Ch95h91h91h94h9Ph92h9Dh9Y1h9Hh975t1H8k2Irr11k210C0601sW2401qW2Qb86nr170Y
  10X1k21k2z2x_2q2ca3751F8aA3aA1aA1aAEaAIaA2.c45vb4OaA2iVW2aAGaA1aAz2y_2q2da3751F8bA3bA1bA1bAEbAIb
  A2_c45wb4ObA2jVW2bAGbA1bAz2z_2q2ea3120I8wO1u32u31u31u3Fu3Cu35u31u35u3Pu32u3Du3D1Lu3Hu3Au3A112JG8
  .B3a21a21a2Fa2Ca25a21a2104a2Pa22a2Da2Y1a2Ha2Y6Yx2120I8gT3p81p81p8DxW12p8Cp85p81p81rW24p8Pp82p8Dp
  8D1c1p8K1w2nw2123H8hT1i92i91i91i9Fi9Ci95i91i91Ws24i9Pi92i9Di9Y1i9Hi9A0124G8xU1p92p91p91p9Fp9Cp95
  p91p95p9Pp92p9Dp9Y1p9Hp9Ap9122G8fT1W82W81W81W8FW8CW85W81W81W84W8PW82W8DW8Y1W8HW8121G8iU1v92v91v9
  1v9Fv9Cv95v91v91v94v9Pv92v9Dv9Y1v9Hv9220Ht1hj11hj11hj11hj11hj11hj11hj11hj11hj11hj11hj11hj11hj11h
  j11hj1Z11w11122G8vU1fA2fA1fA1fAFfACfA5fA1fA104fAPfA2fADfAY1fAHfA121F8.S1j52j51j51j5Fj5Cj55j51j55
  j5Pj52j5Dj5Y1j5Hj5121F8bK1_22_21_21_2F_2C_25_21_25_2P_22_2D_2Y1_2H_2121F8jI1p32p31p31p3Fp3Cp35p3
  1p35p3Pp32p3Dp3Y1p3Hp31211j1WX212C39a2h20y70121F8uU1eA2eA1eA1eAFeACeA5eA1eA5eAPeA2eADeAY1eAHeA12
  1F8rU1cA2cA1cA1cAFcACcA5cA1cA5cAPcA2cADcAY1cAHcA121F8qT1c82c81c81c8Fc8Cc85c81c85c8Pc82c8Dc8Y1c8H
  c8121F8WV1lA2lA1lA1lAFlAClA5lA1lA5lAPlA2lADlAY1lAHlA121F8vO1t72t71t71t7Ft7Ct75t71t75t7Pt72t7Dt7Y
  1t7Ht7121F8iT1e82e81e81e8Fe8Ce85e81e85e8Pe82e8De8Y1e8He8121F8jT1x92x91x91x9Fx9Cx95x91x95x9Px92x9
  Dx9Y1x9Hx9129B8xY11bC2bC1bC1bCFbCCbC6bC5bCe1bCY1bC121E8sU1dB2dB1dB1dBFdBCdB6dB5dBPdB2dBDdBY1dBHd
  B121F8kT1y92y91y91y9Fy9Cy95y91y95y9Py92y9Dy9Y1y9Hy9121F8oT1n72n71n71n7Fn7Cn75n71n75n7Pn72n7Dn7Y1
  n7Hn7121F8pU1YA2YA1YA1YAFYACYA5YA1YA5YAPYA2YADYAY1YAHYA121F8qU1ZA2ZA1ZA1ZAFZACZA5ZA1ZA5ZAPZA2ZAD
  ZAY1ZAHZA121F8wU1gA2gA1gA1gAFgACgA5gA1gA5gAPgA2gADgAY1gAHgA121F8zU1iA2iA1iA1iAFiACiA5iA1iA5iAPiA
  2iADiAY1iAHiA121F8nU1XA2XA1XA1XAFXACXA5XA1XA5XAPXA2XADXAY1XAHXA121F8wK1z32z31z31z3Fz3Cz35z31z35z
  3Pz32z3Dz3Y1z3Hz3121F8XV1mA2mA1mA1mAFmACmA5mA1mA5mAPmA2mADmAY1mAHmA121F8yU1hA2hA1hA1hAFhAChA5hA1
  hA5hAPhA2hADhAY1hAHhA121F8eK1o32o31o31o3Fo3Co35o31o35o3Po32o3Do3Y1o3Ho3120H_2c44u11v1416de4Mc41c
  41c41c41c41c4Hzb11c41c461r2Wg5u2Wg51213k3ee4f4Yg5u2Zg51213k3fe4f4bg5u2cg51213k3ge4f4eg5u2fg5125F
  8.U1jA2jA1jA1jAFjACjA5jA1jA5jAPjA2jADjAY1jAHjA121F8jU1z92z91z91z9Fz9Cz95z91z95z9Pz92z9Dz9Y1z9Hz9
  121F8tU1dA2dA1dA1dAFdACdA5dA1dA5dAPdA2dADdAY1dAHdA121F8xK1.32.31.31.3F.3C.35.31.35.3P.32.3D.3Y1.
  3H.3121F8_U1kA2kA1kA1kAFkACkA5kA1kA5kAPkA2kADkAY1kAHkA121F8kU1.92.91.91.9F.9C.95.91.95.9P.92.9D.
  9Y1.9H.9121F8lU1_92_91_91_9F_9C_95_91_95_9P_92_9D_9Y1_9H_9121F8mU1WA2WA1WA1WAFWACWA5WA1WA5WAPWA2
  WADWAY1WAHWA15z1E8r2Jr210C0601qs240RtK6nr170z1xZ26r21r2n5.Z375w2C8.110I.110C06050RlBD0Y10X1.11.1
  75c3C8v810Iv810C06050RlTD0Y10X1v81v875a3C8e310Ie310C06050R.JD0Y10X1e31e375a3C8f310If310C06050R_J
  D0Y10X1f31f37520752075a3C8h310Ih310C06050RXKD0Y10X1h31h375a3C8i310Ii310C06050RYKD0Y10X1i31i37520
  752075A075a3C8g310Ig310C06050RWKD0Y10X1g31g37520752075W3C8k110Ik110C06050Rq7D0Y10X1k11k175a3C8_1
  10I_110C06050RmBD0Y10X1_11_17510751075407510751075a3C8W210IW210C06050RnBD0Y10X1W21W27510751075c3
  C8w810Iw810C06050RmTD0Y10X1w81w875a3C8X210IX210C06050RoBD0Y10X1X21X27510751075a3C8Y210IY210C0605
  0RpBD0Y10X1Y21Y27510751075a3C8Z210IZ210C06050RqBD0Y10X1Z21Z27510751076q2B8050Dyt1Lis25zr2Qk26qt1
  g206k2u2cb3q2tf376q2B8050Dyt1Lgd45yb4QaA6qt1g206aAu2db3q2uf376q2B8050Dyt1Lhd45zb4QbA6qt1g206bAu2
  eb3q2vf322j2Ft1ij11ij11ij11ij11ij11ij11ij11ij11ij11ij11ij11ij11ij11ij11ij112m13k3me4f4th5u2th512
  13k3ne4f4vh5u2wh51213k3oe4f4yh5u2zh51213k3qe4f4_h5u2Wi5225Ft1kj11kj11kj11kj11kj11kj11kj11kj11kj1
  1kj11kj11kj11kj11kj11kj11223k3ve4f4zi5u2zi51213k3we4f4_i5u2Wj51213k3xe4f4Yj5u2Zj51213k3ye4f4bj5u
  2cj5225Ft1nj11nj11nj11nj11nj11nj11nj11nj11nj11nj11nj11nj11nj11nj11nj11223k3Xf4f4Zk5u2Zk51213k3Yf
  4f4bk5u2ck51213k3Zf4f4ek5u2fk51213k3af4f4hk5u2ik5225Ft1pj11pj11pj11pj11pj11pj11pj11pj11pj11pj11p
  j11pj11pj11pj11pj11223k3ef4f4dl5u2dl51213k3ff4f4fl5u2gl51213k3gf4f4il5u2jl51213k3hf4f4ll5u2ml522
  5Ft1rj11rj11rj11rj11rj11rj11rj11rj11rj11rj11rj11rj11rj11rj11rj1221Ft1sj11sj11sj11sj11sj11sj11sj1
  1sj11sj11sj11sj11sj11sj11sj11sj1221Ft1uj11uj11uj11uj11uj11uj11uj11uj11uj11uj11uj11uj11uj11uj11uj
  1221Ft1jj11jj11jj11jj11jj11jj11jj11jj11jj11jj11jj11jj11jj11jj11jj1221Ft1mj11mj11mj11mj11mj11mj11
  mj11mj11mj11mj11mj11mj11mj11mj11mj112W4C1yi25kv16vs1201ce3B0L050W10x2d.4e2uu3Uvu3150G8o14sc29ey3
  5iS1sc2Do2i1d1K1Llu3Y1sc231Y2uq3Bij4Ite3j1sv3c1oY512b3390q30RtZ2120G1Wi2.2D91AWi2ID1D1D1D1D1DHj4
  1D1D61.4ix2Fbf512a3390q30Rvk21548Ctq19WW26tq1Y3nu3Y1tq1b2Yr3BWk4_1lw31515Qm8Z3ou3d3Xk4Tac3p2oa51
  51ACtc29iy35l51tc2Y3pu3Y1tc2b2xY5Twp3j1nw3c1nz4150G8m94mM1qq1Dm81ADAi1d1K1LAX1A1A31_2mj3p2y_4Ivw
  41bi412r2390q30RtZ21558CYT9XW26YTY3su3Y1YTb2hr3Bhk4_1Wx31515Qm8Z3tu3d3kk4Tac3p2oa51518Ljy35l5Z3u
  u3d3gZ5Bnk4Iwp3j1Zx3c1nz41514Lky3e3vu3o3ok4_1ax31514Lry3e3wu3o3uk4_1gx31514Lsy3e3xu3o3vk4_1hx315
  68Cuw19Xb26uw1Y3.u3Y1uw1b2or3B_k4_1ux31528CzK9ty36zKY3_u3Y1zKb2yZ5BYl4_1xx31514Luy3e3Wv3o3cl4_1.
  x31514Lhz3e3Xv3o3zl4_1ly31514Liz3e3Yv3o3.l4_1my31514Lpz3e3Zv3o3_k4_1sy31514Lqz3e3av3o3bm4_1ty315
  78Cyw19Yb26yw1Y3dv3Y1yw1b2ur3Bim4_1cz31528CuE9sz36uEY3ev3Y1uEb2da5Bqm4_1gz31514Li.3e3fv3o3Yo4_1d
  .31514Lj.3e3gv3o3bo4_1g.31514Ly.3e3hv3o3wo4_1w.31518CiP9h_36iPY3kv3Y1iPb2ia5Bdr4_1eW415L2Drq1vAa
  i415f4D8p8Irr11p810C0601ds240RgTD0Z2p81p8z2sY315.21u4012T41fi2n3fi2k6we3Fhh515P1Doq112241di2n3di
  2k6na3Fni51521Dpq112241tf2n3tf2k6bW2Ftj51521Dsq112241hf2n3hf2k6ap1Fxk512a131ri2n3ri2z6Ym512131ni
  2n3ni2z6go512b5D8qx1301cv210F0Crx16050e1cv2p1jk4A0.5y.41od415VB804lp11lp1806lp1Y3mu3X1lp11lp1b2v
  v3B0_1wv312Y1E8uW13j91j91j9Fj9Cj95j91j95j9PYM2j9Dj9p1j9A0121C8yY13eB1eB1eBFeBCeB5eB1eB5eBRaNDeBp
  1bN121D8oU3q91q91q9Fq9Cq95q91q95q9Pq92q9Dq9p1Wg31548Cnp11np1Enp1Y3qu3X1np11np1b2pw3g2rw31553e1ti
  3r2ru3d3mn312_3590Z2YM2aNl10HbN121C8vW13k91k91k9Fk9Ck95k91k95k9Rk9Dk9p1k91548Cop11op1Eop1Y3yu3X1
  op11op1b2kx3g2mx31552z3zu3d3nn3124A8tY13ZB1ZB1ZBFZBCZB5ZB1ZB5ZBe1ZB12v3590Z2YM2aNl10HbN121A8wY13
  cB1cB1cBFcBCcB5cB1cB5cBe1cB121A8vY13bB1bB1bBFbBCbB5bB1bB5bBe1bB1558Crp11rp1Erp1Y3bv3X1rp11rp1b2y
  y3g2.y31572z3cv3d3qn31518Ctp11tp1Etp1Y3iv3X1tp11tp1b2X_3g2Z_31532z3jv3d3sn31522z3lv3d3un3126A8uY
  13aB1aB1aBFaBCaB5aB1aB5aBe1aB16V98050Y1ts2Vr26qt1a2uZ2606r2i5lf315X188bS3bS1bS1bSEbSI0n3bS1bS15X
  1D8a23a21a21a2Ea2Ia220Ta22.BW2a2Ga21a2n5Za375n54Q0w10e50q20751D8xA3xA1xA1xAExAIxA2Wd45xb4OxA2pTW
  2xAGxA1xA75z5C8Y310IY310C06050RhJD0Y10X1Y31Y3751075.5C8o910Io910C06050RnTD0Y10X1o91o915.5C8s310I
  s310C06050RzJD0Y10X1s31s315v5C8X310IX310C06050RaKD0Y10X1X31X315.5C8v710Iv710C06050ReTD0Y10X1v71v
  71531l1z615.5C8f910If910C06050RfUD0Y10X1f91f915.5C8g910Ig910C06050RgUD0Y10X1g91g9155015.5C8h910I
  h910C06050RhUD0Y10X1h91h9759D8y53y51y51y5Ey5Iy52y55y5Oy52c9W2y5Gy51y5751D8z53z51z51z5Ez5Iz52z55z
  5Oz52d9W2z5Gz51z5751D8.53.51.51.5E.5I.52.55.5O.52e9W2.5G.51.576Z458050X2.1m206.176l458050X2v8m20
  6v876j458050X2e3m206e376j458050X2f3m206f37620762076j458050X2h3m206h376j458050X2i3m206i3762076207
  6A076j458050X2g3m206g37620762076f458050X2k1m206k176j458050X2_1m206_17610761076407610761076j45805
  0X2W2m206W27610761076l458050X2w8m206w876j458050X2X2m206X27610761076j458050X2Y2m206Y27610761076j4
  58050X2Z2m206Z276107610120E1lv14q.11i.16wd41xd41j.1r2zT1.T41w119_d58Yi4a2_d5Ke.412q32C03012q7980
  3020F0C.m1B0e10Y1kk4n5bW512X7A8qk23bS1bS10FbSC0501bS5bSe1015W38Csw1906sw1Y30Y1sw1b2br3BYk4_1mw31
  5y18Cmp11mp1Emp1Y30X1mp11mp1b2tw3g2uw31526Cuq1Fuq1a4uq1b2gr3Bik4_1Xx31514Qm8g6lk4Tac3p2oa515_28C
  tw1906tw1Y30Y1tw1b2hZ5Bsk4_1fx31547Cpp11pp1Epp1Z4pp11pp1b2ix3g2nx315u24Cdf11df1vA0101561a7on312q
  67801020Fe2E0B0f6zp11576Cvq1Fvq1a4vq1b2nr3Byk4_1tx31514Qm8g6Wl4Tac3p2oa51576CnOFnOa4nOb2xZ5Bal4_
  1zx31512l7fl4_1Xy31512l7Zm4_1ry31512l7dm4_1vy31587Cqp11qp1Eqp1Z4qp11qp1b2wy3g2zy315B1a7pn31586Cx
  w1Fxw1a4xw1b2tr3Bgm4_1bz31546CX9FX9a4X9b2ca5Bmm4_1fz31512l7sm4_1iz31512l7Zo4_1f.31512l7eo4_1j.31
  512l7yo4_1y.31512l7_o4_1..31587Csp11sp1Esp1Z4sp11sp1b2_.3g2Y_315A1a7rn31596C.w1F.w1a4.w1b2xr3Bap
  4_1e_31546Cg6Fg6a4g6b2ha5Bhp4_1h_31512l7Zr4_1dW41512l7fr4_1gW41512l7js4_1_W41567Cup11up1Eup1Z4up
  11up1b2WX4g2ZX41581a7tn31536CiCFiCa4iCb2ja5BWu4_1sX41531a7vn315d8C8u310Iu310C06050RwOD0Y10X1u31u
  3151D8i93i91i91i9Ei9Ii92es2Ti92hTW2i9A06i91i9152C8p93p91p91p9Ep9Ip9Vp92xUW2p9Ap96p91p9152C8W83W8
  1W81W8EW8IW82W8TW82fTW2W8GW81W8151C8v93v91v91v9Ev9Iv92v9Tv92iUW2v9Gv91v915z4B8_2J_210C06050RbKD0
  z1xZ26_21_215W33q20a2.k2u50152B8o33o31o31o3Eo3Io3Vo32eKW2o3Go31o3151D8x73x71x71x7Dx71x7Ix7Vx72vC
  W2x7A06x71x7151C8y73y71y71y7Dy71y7Iy7Vy72wCW2y7Gy71y7151C8z73z71z71z7Dz71z7Iz7Vz72xCW2z7Gz71z716
  d488050Dyt1Lgs2Vp8m206p8u2gc316e31u4015_44QAw1Aj50p201512Drq1vAai41521Doq11511Dpq11511Dsq172pAC8
  01k2201010Daw120C0B0X1un170Y10721A9aAa1aA1aA1Xs25sr2OaA2aAW2aAk3.v2q2ax2721A9bAa1bA1bA1Ys25tr2Ob
  A2bAW2bAk3_v2q2bx212y1B1er14er11cr16sd41Yb41cr1y4zh41.h480a2.h4K012z1A5gj21.i23sa33vs11vs110z4ve
  580a2ve5Ki_415q13804A1A12_13C01os2c5rW51211Dce415368ADA5Aw1Aj50p2015Q88jh13jh11jh11jh1Ejh1I0n3jh
  11jh1152B8td14td11td18td15td11td1Dtd1i1td1f1td1X1td11td115u18Rn710I0W1oTD0Y10X1n71n7153C8fA3fA1f
  A1fAEfAIfA20TfA2vUW2fAGfA1fA151B8j53j51j51j5Ej5Ij5Vj52.SW2j5Gj51j515R1u40151B8p33p31p31p3Ep3Ip3V
  p32jIW2p3Gp31p31511j1ec215T1u40151B8eA3eA1eA1eAEeAIeAVeA2uUW2eAGeA1eA151B8X63X61X61X6EX6IX6VX62y
  AW2X6GX61X6151B8cA3cA1cA1cAEcAIcAVcA2rUW2cAGcA1cA151B8c83c81c81c8Ec8Ic8Vc82qTW2c8Gc81c8151B8lA3l
  A1lA1lAElAIlAVlA2WVW2lAGlA1lA151B8j93j91j91j9Ej9Ij9Vtb12uW1W2j9Gj91j9151B8t73t71t71t7Et7It7Vt72v
  OW2t7Gt71t7151B8e83e81e81e8Ee8Ie8Ve82iTW2e8Ge81e8151B8x93x91x91x9Ex9Ix9Vx92jTW2x9Gx91x9154A8eB3e
  B1eB1eBEeBIeBX1in1W2oe1GeB1eB15C78bC3bC1bC1bCEbCZ4bC1bC151B8q93q91q91q9Eq9Iq9Vq92oUW2rg3Gq91q915
  2A8dB3dB1dB1dBEdBn1dB2sUW2dBGdB1dB151B8y93y91y91y9Ey9Iy9Vy92kTW2y9Gy91y916d16BbS1bSFbSI0o3bS5bS1
  52B8X83X81X81X8EX8IX8VX82.AW2X8GX81X815N48n73n7F0Y70151B8YA3YA1YA1YAEYAIYAVYA2pUW2YAGYA1YA151B8Z
  A3ZA1ZA1ZAEZAIZAVZA2qUW2ZAGZA1ZA151B8gA3gA1gA1gAEgAIgAVgA2wUW2gAGgA1gA151B8iA3iA1iA1iAEiAIiAViA2
  zUW2iAGiA1iA151B8XA3XA1XA1XAEXAIXAVXA2nUW2XAGXA1XA151B8z33z31z31z3Ez3Iz3Vz32wKW2z3Gz31z31513i2tb
  12in1W2oe1151B8mA3mA1mA1mAEmAImAVmA2XVW2mAGmA1mA152A8k93k91k91k9Ek9Ik9X1vW1W2k9Gk91k9151B8hA3hA1
  hA1hAEhAIhAVhA2yUW2hAGhA1hA15u11u40151B8Y83Y81Y81Y8EY8IY8VY82_AW2Y8GY81Y8151B8jA3jA1jA1jAEjAIjAV
  jA2.UW2jAGjA1jA151B8z93z91z91z9Ez9Iz9Vz92jUW2z9Gz91z915888ZB3ZB1ZB1ZBEZBIZBn3ZB1ZB151B8dA3dA1dA1
  dAEdAIdAVdA2tUW2dAGdA1dA151B8.33.31.31.3E.3I.3V.32xKW2.3G.31.31513i2tb12in1W2oe115188cB3cB1cB1cB
  EcBIcBn3cB1cB15188bB3bB1bB1bBEbBIbBn3bB1bB151B8Z83Z81Z81Z8EZ8IZ8VZ82WBW2Z8GZ81Z8151B8kA3kA1kA1kA
  EkAIkAVkA2_UW2kAGkA1kA151B8.93.91.91.9E.9I.9V.92kUW2.9G.91.9151B8_93_91_91_9E_9I_9V_92lUW2_9G_91
  _9151B8a83a81a81a8Ea8Ia8Va82XBW2a8Ga81a8151B8WA3WA1WA1WAEWAIWAVWA2mUW2WAGWA1WA15788aB3aB1aB1aBEa
  BIaBn3aB1aB16j178050X2a26qt1g206a2i5qf376d84Q0w10e50q2076g578050Y1id45.b4QxAm206xA76_458050X2y5m
  206y576g558050X2Y3m206Y3761076h558050X2o9m206o916h558050X2s3m206s316c558050X2X3m206X316h558050X2
  v7m206v71631l1z616h558050X2f9m206f916h558050X2g9m206g9165016h558050X2h9m206h976g558050X2z5m206z5
  76g558050X2.5m206.512c44e10r2r2RzZ2s40120C1Wa3AsPf2d1K1c1qn11rn1J1y1yz4Y1yX2Mqh42bd5y1ui312111Xa
  312141Ya3z6b_4Y1XZ2q2fj312111Za312151aa3AhY1p6u_4Y1sk2q2kj312i2A8ge350E01jh1Ijh11Ws24jh1Ri9m2010
  12p23C01ur2z4jW5150C8wr24pi19db26pi13Yn11Yn19o2W21t1pi131j2fw3_1_u315138o1t4iu2m2gi41231Dkb412p2
  1D015p248m94df11df18016k268050X2_2g2uZ2606_215g66Q0L0Ttb12in1W2oe1k3016W13q20a2xk2u5016o168050X2
  o3g2uZ2606o3150CBnm11nm11nm1Enm1D.t2W21s1nm11nm131i4cs34cs3Fcs31519Bpm11pm11pm1Epm1Z4pm11pm1l4fs
  34fs3Ffs316q358050X2u3m206u316q368050Y1hs2Vi9m206i916q358050X2p9m206p916q358050X2W8m206W816q3580
  50X2v9m206v912J41ca3z6pY5Y1jp1q2co312141ea3z6cZ5Y1Xq1q2io312Q59r230e2un1f10RwZ212P11ba312o39B0Fm
  _110Jp81rW2k2p8Y1050u2nw212P11da312311fa312211ga3121710Aor1Z4wN1gNl2r.4Y1s6q2cj31214BiY1p6f_4Y1n
  Oq2gj3120B8ti14ti11ti1Fti12ti11ti19ti16ti1w11Lti1b1112s35ClK1rZ1E0Z40101234BsPp6p_4Y1cZ2q2ij3123
  98wi14wi11wi1Fwi12wi11wi19wi16wi1l2wi11224Bpr1p6gW5Y1_Qq2oj312i56Q0L0TYM2aNW2bNk301283.6hW5Y1y6q
  2qj31283.6nW5Y1tOq2rj312598vi14vi11vi1Fvi12vi11vi19vi16vi1l2vi112198ui14ui11ui1Fui12ui11ui19ui16
  ui1l2ui11283.6.W5Y1da2q2uj315b11L015b11L01234BhY1p6XX5Y1yk2q2vj312598xi14xi11xi1Fxi12xi11xi19xi1
  6xi1l2xi115c96Q0w10f1WW2d30T0p2012C3.6hX5Y1XSq2.j315Z96Q0w10f1XW2d30T0p201513Lly3e3my3n5bx31514L
  ny3e3oy3o3pk4_1cx31514Lpy3e3qy3o3qk4_1dx312j11D015Z96Q0w10f1Xb2d30T0p201517CzK9vy36zKY3wy3Y1zKm2
  dl4_1_x31514Lxy3e3yy3o3hl4_1Yy31514Lzy3e3.y3o3il4_1Zy31514LWz3e3Xz3o3jl4_1ay31514LYz3e3Zz3o3kl4_
  1by31514Laz3e3bz3o3ol4_1ey31514Lcz3e3dz3o3pl4_1fy31514Lez3e3fz3o3ql4_1gy31514Ljz3e3kz3o3_l4_1ny3
  1514Llz3e3mz3o3Wm4_1oy31514Lnz3e3oz3o3Xm4_1py315e96Q0w10f1Yb2d30T0p201517CuE9tz36uEY3uz3Y1uEm2zm
  4_1lz31514Lvz3e3wz3o3Xn4_1oz31514Lxz3e3yz3o3Yn4_1pz31514Lzz3e3.z3o3cn4_1sz31514LW.3e3X.3o3ln4_1x
  z31514LY.3e3Z.3o3mn4_1yz31514La.3e3b.3o3nn4_1zz31514Lc.3e3d.3o3on4_1.z31514Le.3e3f.3o3sn4_1X.315
  14Lg.3e3h.3o3tn4_1Y.31514Lk.3e3l.3o3co4_1h.31514Lm.3e3n.3o3go4_1k.31514Lo.3e3p.3o3ho4_1l.31514Lq
  .3e3r.3o3io4_1m.31514Ls.3e3t.3o3jo4_1n.31514Lu.3e3v.3o3im4_1q.31514Lw.3e3x.3o3no4_1r.31517CiP9_p
  26iPY3_p2Y1iPm2cp4_1f_31514L..3e3_.3o3sp4_1k_31514LW_3e3X_3o3cq4_1r_31514LY_3e3Z_3o3gq4_1u_31514
  La_3e3b_3o3hq4_1v_31553Lc_3e3d_3n5y_31514Lf_3e3g_3o3tq4_1XW41514Li_3e3j_3o3mr4_1jW41514Lk_3e3l_3
  o3qr4_1mW41514Lm_3e3n_3o3rr4_1nW41514Lo_3e3q_3o3vr4_1qW41514Lr_3e3s_3o3Xs4_1vW41517C_w19t_36_w1Y
  3u_3Y1_w1m2et4_1iX41514Lv_3e3w_3o3hu4_1vX416p27D0Ryt2s306nm1g4lY44lY4FlY416p27D0Ryt2s306pm1g4xY4
  4xY4FxY412Z22DqZ1vAvw416t21u4016Y478050_1sn12dq1W2fq1G06cB1616BbB1bBFbBIbBo3bB5bB1241DpZ116t26Bj
  h11jh1Fjh1I0o3jh15jh11221Dst116m558050X2fAm206fA16m558050X2j5m206j516Y31u4016m558050X2p3m206p316
  11j1gc216Z31u4016m558050X2eAm206eA1281Dvt116n558050X2X6m206X616n558050X2cAm206cA16n558050X2c8m20
  6c816n558050X2lAm206lA16n568050_1sn12j9m206j916n558050X2t7m206t716n558050X2e8m206e816n558050X2x9
  m206x916K6BeB1eBFeBIeBo3eB5eB16D5BbC1bCFbCa4bC5bC16n568050X2q9W2Zh3G06q916n568050W1gc2X1dBm206dB
  16n558050X2y9m206y9320B9x72vC1x7X1x71x7Ux72x7Q1c1x7Fx75116n558050X2X8m206X816n558050X2n7m206n716
  n558050X2YAm206YA16n558050X2ZAm206ZA16n558050X2gAm206gA16n558050X2iAm206iA16n558050X2XAm206XA16n
  558050X2z3m206z31613i2sn12dq1W2fq132A99y72wC1y7X1y71y7Uy72y7W2y7Fy716o558050X2mAm206mA16o568050_
  1sn12k9m206k916o558050X2hAm206hA16n558050X2Y8m206Y816n558050X2jAm206jA16n558050X2z9m206z91686BZB
  1ZBFZBIZBo3ZB5ZB32899z72xC1z7X1z71z7Uz72z7W2z7Fz716o558050X2dAm206dA16o558050X2.3m206.31613i2sn1
  2dq1W2fq116m558050X2Z8m206Z816m558050X2kAm206kA16m558050X2.9m206.916m558050X2_9m206_916m558050X2
  a8m206a816m558050X2WAm206WA1676BaB1aBFaBIaBo3aB5aB1619BX51X5FX5IX5VX52X5W2X5HX55X516v768050D0q1x
  7m206x71619BY51Y5FY5IY5VY52Y5W2Y5HY55Y516w768050D0q1y7m206y716w768050D0q1z7m206z712m11Dxt112v33.
  6zY5Y1wb2q2go312z33.6fZ5Y1XZ4q2jo312u33.6iZ5Y1aq1q2ko312k41u401233.6sZ5Y1fZ4q2mo31253.6tZ5Y1Xc2q
  2oo31223.6wZ5Y1pZ4q2po31253.6Wa5Y1sq1q2qo31223.6aa5Y1Xa4q2ro31243.6pa5Y1jc2q2so31213.6.a5Y1pc2q2
  vo312q449p830Eaw1Z30120A1Wq1Add1Y1se1x11g1ab3G1NWd4Tri34ri3Mri315f53U010W4pi1120A1fZ36w2X31A.h2m
  11Bmd4r4ou21pu21xv21ww212_73903010A70Ad3ds1111co31qr1s1os121t2ps3Y2dv3o1ps37dv3A20Ae1o2W21h1aq11
  bq11cq1D1f4.w31.w31.w31.w3A214h9vx31vx31vx31vx3A214h9Xz31Xz31Xz31Xz3A214h9Yz31Yz31Yz31Yz315i5780
  301jy11jy1Ejy1Z4jy11jy11515Cky11ky1Eky1Z4ky11ky11515Cly11ly1Ely1Z4ly11ly1A244h9Zz31Zz31Zz31Zz3A2
  14h9c_31c_31c_31c_3A214h9d_31d_31d_31d_3A214h9aX41aX41aX41aX4A214h9bX41bX41bX41bX416a16BbS1bSFbS
  I0o3bS5bS150ABXn11x11x1Ex1Khb2v11s1x11x131Osa41511l1ib212c179X5202X5E0JX5n305012b179Y5202Y5E0JY5
  n305072r679y52010F0Jy5n305072g679z52010F0Jz5n305072g679.52010F0J.5n305012N71wz2n3v.2x1af4r4zr11.
  r11cy11dy1A7M4d3aW22Ym3m4Wq3q3Wq312eA6D0DZ620I0l20_3yY212371jZ3n3vZ3x1kf4r4fw21gw21w_21uZ3A7P1f3
  Wl312271rz2n3tz2x1sf4r4xk11yk11km11lm1A721f3eo312271rZ3n3zZ3x1.f4r4zy21.y21ab31ff3A721f3fo3A711f
  3Zp3A791f3uo3A723f3vn3o6sb4v1sb412b12o4qb3d1ze412a141xZ3i5cg4r4bZ31cZ312m189a2a1a21a210Ta22a2W2a
  2Y6Yx212o37B0G0Jo3l2o3RzZ270501217C_2X1_21_2U_22_2l1_2H_21236903a2e20f1a2RWl2u5012631.x1n40d1_c4
  12091gX43gW4Ml5w1d1K1w11Y2zz4Twp3p2nz47209QZ6Ln85p1W1kSK1w11a2Y.4M.X2q2Z.41231v5Wd412351030a1yp3
  r2fq2d3k.412421jX43hW415m11L012098vL4vL1vLFvLCvL6vLw11LvLb1112098pW24vu2Gvu2C.m1W21LkW4b11j2n.4_
  1id412s14q20g4s.4Y1nY2q2012531lX43lW4W7t.412C61ja3j10j1a2Y10H.BA012091ob2k1.d4q1u11v141w11v1ZOSX
  Pc1pP3209Bi7f2.r2K1c1oW2Fa551_3wi4m1cQ3fv312C81nq1i1nq12050x1nq1t30M_Y2q2X_412d24CXm11Xm1vA01012
  621sX43pW415098XZ14XZ1FXZ13XZ11XZ19XZ1W21t1XZ13115178YZ14YZ1FYZ13YZ11YZ19YZ1t3YZ112G1v5fj412K41i
  w3r6Wd34Wd3MWd312I41kw3r6Xd34Xd3MXd312098qx14dv2Srx1p1dv2D1c1rx1K1q5y.41od412E3Bor1p6v_4Y1w61224
  Cev2l2ev2x7XW51_d472N5Qe2LZs2t5uY5Mkl1q2vY512H2.6iW5Y1Za21213BiY1p6lW5Y1rO12O1e1ra41232.6xW5Y1ba
  215C78Xc14Xc1FXc13Xc11Xc19Xc1t3Xc11223BhY1p6YX5Y1.k215Q5Csw1Fsw1a4sw1m2Yk4_1mw31518804xy11xy1Exy
  1Z4xy11xy1m20_1qw37293l1f2j6ll1q2tX31243Bpr1p6eX5Y1wR3209Bde31Xy1Z1ss2b1un1K1r1fk451k5gw4Y1he412
  E2.6gX5Y1Y712B2.6kX5Y1yO12O4804ub11du1vApx412fA4L060Z401012C2.6tX5Y1_a212B2.6vX5Y1al215B5Cuq1Fuq
  1a4uq1m2ik4_1Xx31515Ctw1Ftw1a4tw1m2rk4_1ex315C6Czy11zy1Ezy1Z4zy11zy1l4lx31516C.y11.y1E.y1Z4.y11.
  y1l4ox312C2.6zX5Y1nS1545Cvq1Fvq1a4vq1m2yk4_1tx31515CnOFnOa4nOm2Zl4_1yx31512l7el4_1Wy31512l7ll4_1
  cy31512l7ml4_1dy31512l7rl4_1hy31512l7sl4_1iy31512l7ul4_1jy31512l7vl4_1ky31512l7Ym4_1qy31512l7cm4
  _1uy315D6CXz11Xz1EXz1Z4Xz11Xz1l4_y31525Cxw1Fxw1a4xw1m2gm4_1bz31515CX9FX9a4X9m2lm4_1ez31512l7rm4_
  1hz31512l7um4_1jz31512l7vm4_1kz31512l7.m4_1mz31512l7_m4_1nz31512l7Zn4_1qz31512l7an4_1rz31512l7dn
  4_1tz31512l7en4_1uz31512l7gn4_1vz31512l7hn4_1wz31512l7pn4_1_z31512l7qn4_1W.31512l7un4_1Z.31512l7
  vn4_1a.31512l7xn4_1b.31512l7yn4_1c.31512l7gm4_1e.31512l7do4_1i.31512l7ko4_1o.31512l7lo4_1p.31512
  l7oo4_1s.31512l7po4_1t.31512l7ro4_1u.31512l7so4_1v.31512l7xo4_1x.31512l7.o4_1z.31515C.w1F.w1a4.w
  1m2ap4_1e_31515Cg6Fg6a4g6m2gp4_1g_31512l7np4_1i_31512l7op4_1j_31512l7tp4_1l_31512l7up4_1m_31512l
  7wp4_1n_31512l7xp4_1o_31512l7_p4_1p_31512l7Wq4_1q_31512l7dq4_1s_31512l7eq4_1t_31512l7iq4_1w_3151
  2l7jq4_1x_31512l7lq4_1z_31512l7mq4_1._31512l7oq4_1__31512l7pq4_1WW41512l7uq4_1YW41512l7vq4_1ZW41
  512l7xq4_1aW41512l7yq4_1bW41512l7Yr4_1cW41512l7er4_1fW41512l7hr4_1hW41512l7ir4_1iW41512l7nr4_1kW
  41512l7or4_1lW41512l7sr4_1oW41512l7tr4_1pW41512l7wr4_1rW41512l7xr4_1sW41512l7zr4_1tW41512l7.r4_1
  uW41512l7Ys4_1wW41512l7Zs4_1xW41512l7bs4_1yW41512l7cs4_1zW41512l7is4_1.W41515CiCFiCa4iCm2qs4_1cX
  41512l7ws4_1eX41512l7xs4_1fX41512l7Zt4_1gX41512l7at4_1hX41512l7ft4_1jX41512l7gt4_1kX41512l7ht4_1
  lX41512l7it4_1mX41512l7mt4_1nX41512l7nt4_1oX41512l7tt4_1pX41512l7ut4_1qX41512l7_t4_1rX41512l7cu4
  _1tX41512l7du4_1uX41512l7iu4_1wX41512l7ju4_1xX41512l7lu4_1yX41512l7mu4_1zX41512l7qu4_1.X415L1k9_
  X41512l7wu4_1WY41512l7xu4_1XY41515Cen1Fen1a4en1m2dv4_1bY41512l7ev4_1cY41512l7sv4_1dY41512l7tv4_1
  eY415sA6D0Eti110I0l20Y1ti115qA6D0Ewi110I0l20Y1wi115mA6D0Evi110I0l20Y1vi115mA6D0Eui110I0l20Y1ui11
  5iA6D0Exi110I0l20Y1xi115v58BdQ1ol11ol1Eol1K0l3ol11ol1Ro_41516Cpl11pl1Epl1Z4pl11pl1RuW51516Cql11q
  l1Eql1Z4ql11ql1RwW51516Csl11sl1Esl1Z4sl11sl1RoX51516Crl11rl1Erl1Z4rl11rl1RqX51516Ctl11tl1Etl1Z4t
  l11tl1R.X51516Cul11ul1Eul1Z4ul11ul1RWY51516Cvl11vl1Evl1Z4vl11vl1RZY51516Cwl11wl1Ewl1Z4wl11wl1RbY
  51516Cxl11xl1Exl1Z4xl11xl1RdY51516Cyl11yl1Eyl1Z4yl11yl1RfY51516Czl11zl1Ezl1Z4zl11zl1RhY51516C.l1
  1.l1E.l1Z4.l11.l1RjY51516C_l11_l1E_l1Z4_l11_l1RkY51518Bzi11zi11zi1Ezi1Dzi1s3zi11zi1R01517B.i11.i
  11.i1E.i1D.i1s3.i11.i11517B_i11_i11_i1E_i1D_i1s3_i11_i11517BWj11Wj11Wj1EWj1DWj1s3Wj11Wj115h61l10
  1518By61y61y6Ey6Ky6l3y61y6R01517Bz61z61z6Ez6Kz6l3z61z672q42y7lp1q2vY512j42.6.Y5Y1up112i571.a2k1r
  f4q1c31d3t3th3SYo3c1kY432i55BeSo4vRa4ax4m1tY43_a412i53Qe2Y7_p1q2bZ512o42.6kZ5Y1.b272w52l1yc4j6uz
  11262.6uZ5Y1oq112u42.6vZ5Y1oZ41222.6zZ5Y1qq172.52y7v.1q2_h31232.6Ya5Y1xZ412b649o330n30RwZ21282.6
  Za5Y1dc21232.6ba5Y1aa41262.6fa5Y1zq11222.6ga5Y1ka41242.6ta5Y1nc272l51y7rg272d51y7sg21232.6Wb5Y1u
  c27232l1Xd4j6fd27231y7gd272H2l1jd4j6vg272E1y7wg27242l1kd4j6ul27241y7vl27223QZ6Lld4j6hW27214l1f2b
  1nr1e5iW2q2lZ312W61v5ye41211v5ze412b631tZ43XX4W7qY512131zZ43aX4W7_Y572.51l1ed412w649_230n30RwZ21
  2z63q20a2zk2u5012x68Cz3X1z31z3Une12ei1l1z3Hfi1A01216Ck9X1k91k9W1k9l1k9Hk91224CZBX1ZB1ZBl2ZB1214C
  .3X1.31.3l2.31214CcBX1cB1cBl2cB1214CbBX1bB1bBl2bB1214CaBX1aB1aBl2aB12y621rZ43bX412o621uZ43cX412y
  678gb24vS1vSFvSCvS6vSl2vS1246Cj9X1j91j9W1j9l1j9Hj91254CeBX1eB1eBl2eB1217Cq9X1q91q9Uq92q9l1q9Hph3
  12621da43eX412X718ak412721ea43fX4A7o75f3yn31u_1s1aW2x40v101208Bnm1TZl1Bnm1r11w11i4a.44a.4Fa.4120
  83np3j1Wo2u11GMIcy1O1x2oe1a3tc112X72l10k7_S1211z8pP12631mX430W7u.41208Cli4W2YM2aND_h3D1c1bNK1l6u
  i4A775d3bW22.n3t1bW2v2jq3q3jq31275Bpm1e1pm1x7a_44a_4Fa_412561fj24fj2c5re5m10Sre5c1012161zi24zi2.
  2zT1.Td2zi4i2zi412c748A4A1AR0127310y3rX4d3l_412811tX412085ns28xg4SXo2_11w11h1pq31pq3t4pq312n75Cz
  u2Gzu2X30o3s_4_1yd412A4Bdk41uk2l20s8jj412421uX4Z7w_41508C.Z21.s2E.Z2j21s1.s21.Z231p6xq312O4Cbv2X
  101bv2l2gc4A7D4d3wv22ll41ml4s1wv212e17QxW12hl2Jks250o50Msd1q2W_412D41bj24bj2c5kW5i2kW512B2z3yX4d
  3vW512x63CWm11Wm1vA012811zX412C4Dah4W6Xr31Xr3t4Xr312n171sa4AwW1Y1im2i40Tee44ee4Mee412o151hb4u50T
  zj44zj4Mzj412241jb4r6_j44_j4M_j41275QiSZ3.X4d3Yr3Tte3p2oY516e35BYV20n406ol1Mno21225Qm8Z3WY4d3pw3
  Tac3p2oa515F6Cyv11pw1Eyv1Z4pw11yv1s6cr31511rBer312T48xd24xd2l2xd2s801214803kz11kz1l2kz132h75Bmk2
  a10k3tu2p5hw4Y1ie412G41cj24cj2c5iX5i2iX512G2z3ZY4d3rX512E35Zl48Xl4SYl416A5Cpl1Fpl1a4pl15pl1Moo21
  2C2z3aY4d3hr312B2z3bY4d3kk41635Cql1Fql1a4ql15ql1Mpo215B5C_Z21wW2E_Z2Z4wW21_Z21232z3cY4d3kx31525C
  Ze21ku1EZe2Z4ku11Ze21292z3dY4d3XY51655Csl1Fsl1a4sl15sl1Mqo21615Crl1Frl1a4rl15rl1Mro21292z3eY4d3o
  r31262z3fY4d3Xl41212z3gY4d3yy332y74Bxf31.v2n4.v2r601272z3iY4d3cY51665Ctl1Ftl1a4tl15tl1Mso21615Cu
  l1Ful1a4ul15ul1Mto21272z3jY4d3ur31262z3kY4d3km41212z3mY4d3X_31262z3nY4d3gY51655Cvl1Fvl1a4vl15vl1
  Muo21615Cwl1Fwl1a4wl15wl1Mvo21262z3oY4d3yr31252z3pY4d3YX41635Cxl1Fxl1a4xl15xl1Mwo21615Cyl1Fyl1a4
  yl15yl1Mxo21242z3qY4d3Ws31242z3rY4d3aY41635Czl1Fzl1a4zl15zl1Myo21615C.l1F.l1a4.l15.l1Mzo21615C_l
  1F_l1a4_l15_l1M.o216a43D0n406zi116a43D0n406.i116a43D0n406_i116a43D0n406Wj115U7Bom11om11om1Eom1Z4
  om11om1s601516Brm11rm11rm1Erm1Z4rm11rm11516Bsm11sm11sm1Esm1Z4sm11sm11516Bqm11qm11qm1Eqm1Z4qm11qm
  112Y379X6a1X61X6UX62X6W2X6A012169X8a1X81X8UX82X8W2X812169Y8a1Y81Y8UY82Y8W2Y812169Z8a1Z81Z8UZ82Z8
  W2Z812169a8a1a81a8Ua82a8W2a8A7l25d3ds12rk3t1ds1v2ps3q3ps312f42l10k7ra41211z8kY412p23Cpi4l2Xm3s8Y
  x4A7p21f3tk315i16CWa21Xm2EWa2Z4Xm21Wa2s6us312d21Slm212O2z3iZ4d3nn31536Czv11Zw1Ezv1Z4Zw11zv1s6ys3
  1511rBer312B69z3a1z31z3Utn12eq1W2gq112m349k930W2tn1n101252z3jZ4d3qn31545CXa21j_1EXa2Z4j_11Xa2124
  39ZBa1ZB1ZB12139.3a1.31.312139cBa1cB1cB12139bBa1bB1bB1262z3kZ4d3sn31212z3lZ4d3un31212z3mZ4d3wn31
  2439aBa1aB1aB1222z3nZ4d3yn312K3Cri4l2Yj3s8ux415B6CYa21xn2EYa2Z4xn21Ya2s6ft31516C.v11dw1E.v1Z4dw1
  1.v1s6gt31511rBer31515CZa21v_1EZa2Z4v_11Za21253Cti4l2nv3s8ay41526Caa21sl2Eaa2Z4sl21aa2s6kt31516C
  _v11Yw1E_v1Z4Yw11_v1s6lt31511rBer31515Cba21h_1Eba2Z4h_11ba21253Cvi4l2_w3s8iy41526Cca21tp2Eca2Z4t
  p21ca2s6pt31516CWw11fw1EWw1Z4fw11Ww1s6qt31511rBer31515Cda21x_1Eda2Z4x_11da21253Cxi4l2fx3s8ry4152
  6Cea21dq2Eea2Z4dq21ea2s6ut31516CXw11kw1EXw1Z4kw11Xw1s6vt31511rBer31515Cfa21hW2Efa2Z4hW21fa212_32
  3sp3j1Yo212b22z3yZ4d3gZ512g321.Z4Z7WZ512g449j930W2tn1n1012Q39eBa1eB1eB12g449q930n30Hgh31252z3Wa4
  d3yZ512521Xa4Z7lZ51222z3Ya4d3da51212z3Za4d3ia51212z3aa4d3ka51212z3ca4d3ma51208Cjm11gu1Egu1Dgu16g
  u1w11w11e6du31215Cjl41kh1Ekh1Dkh16kh112Y411vZ412t311_Z412211fa412211ga412071di3PXb4k21w11y2ec11t
  e1Hte112J230j1ud41507GZn11Zn1Act2j21t1ct231Ig.41513Rdt2a4dt2Lh.41207Qiy14t9Aiy1i1iy1K1Liy1b1112w
  438Yk450X1012158jp14jp1Gjp1Cjp1r2jp112s22z30d3av3A8jC6d302or31ip1s1nX4v20q3072071js2PZf1LuW25Zf1
  W1Zf1K1w111291m1Wo21241a7iv31593Rjt2a4jt2Lg_41513R.W2a4.W2Lh_41513Rvg4a4ug4Lj_412f538cb2K0X3012H
  210Z7n_41211a7q_412368m94_m11dy3RA60v9ww415r76Clc2Flc2D0t3lc2m2ej4_1012E58kp14kp1Gkp1Ckp1r2kp112
  158ws14ws1Gws1Cws1r2ws112B1a7uv31261a7x_416Z36But110Ftb2a4rb25sb2Mx615i16Cmy11my1Emy1Z4my11my1s6
  012i52B0e1vj4A8J4f3qr3t1Wy1x4Ww3v1Ww312078hu13hu1Fhu1k21c1hu11hu1J122jC4q20j6qj4m1XR301281a7bw31
  281a7mW51682BXn1l5sO15.D6C010Eot2p1pt1m201ot215K3RXh4a4Wh4LoW51241a7tW51211a7yW51211a7zW512H58mS
  4mSGmSCmSr2mS12101210121015N4Cvc2Fvc2a4vc2m2Zk41261a7ZX516K4Ryb2a4wb25xb2M_615f82B0l501515Cny11n
  y1Eny1Z4ny11ny112bD5D0F0C.m1r20n5bW512M1p1sj412y52B0e1_j412f24Cav2Y1av2j10s801207Dvr2W1WX2Vp32p3
  Q1c1p3K1A8P3f3Xm41Zm4s1Ym41233Clv2Y10j1lv212Q58iu13iu1Fiu1q3iu11iu112078fb24op31ch4x21w11j2fX5a4
  ek412D1a7jX516D2BXn1l5vO15P2Rst2a4st21231a7pX51211a7sX51507Crw1Frw13ep21pp2f21t1rw13112L58xs14xs
  1Gxs1Cxs1r2xs112158lY14lY1GlY1ClY1r2lY11210121012a11a7gr315P4Cxc2Fxc2a4xc2m2jk41514C.c2F.c2a4.c2
  m2mk41514Czc2Fzc2a4zc2m2tk412j32z30d3ix315Y92B0l501515Cyy11yy1Eyy1Z4yy11yy11515Coy11oy1Eoy1Z4oy1
  1oy115k54Cku1Fku1a4ku1s6015b92B0l501515Cpy11py1Epy1Z4py11py112S1p1yj412O58ju13ju1Fju1q3ju11ju112
  J1a7_X512F58ys14ys1Gys1Cys1r2ys112_239eg3a101mk41565CZz11Zz1EZz1Z4Zz11Zz112H1a7nr315F4CWd2FWd2a4
  Wd2m2zk41514CYd2FYd2a4Yd2m2.k412G1a7Wl41524Ckb1Fkb1a4kb1m2bl41511l7gl41511l7nl41511l7tl41511l7wl
  41514Cww1Fww1a4ww1m2xl41511l7yl41531l7am41511l7em415v92B0l5012B1a7wy315w92B0l501515C_y11_y1E_y1Z
  4_y11_y11515Cqy11qy1Eqy1Z4qy11qy11515Cry11ry1Ery1Z4ry11ry11515CWz11Wz1EWz1Z4Wz11Wz115j12Rtt2a4tt
  232s64Btk21dX2n4dX2r6012Q1a7aY512N1a7tr315C4Cdd2Fdd2a4dd2m2fm41514CkKFkKa4kKm2hm41575Caz11az1Eaz
  1Z4az11az112D1a7jm41531l7nm41514CpOFpOa4pOm2om41511l7pm41531l7tm41511l7wm41531l7xm41511l7ym41531
  l7Wn41511l7bn41511l7fn41511l7in41551l7jn41511l7kn41531l7rn41511l7wn41511l7zn41541l7.n41511l7_n41
  511l7Wo41511l7Xo41551l7ao41511l7fo41511l7mo41511l7qo41511l7to41561l7uo41511l7vo41531l7zo41511l7W
  p41531l7Xp41511l7Yp415bB2B0l5012X11a7_.315cB2B0l501515Csy11sy1Esy1Z4sy11sy11515Cty11ty1Ety1Z4ty1
  1ty11515CYz11Yz1EYz1Z4Yz11Yz112h11a7eY51525Cbz11bz1Ebz1Z4bz11bz11515Ccz11cz1Ecz1Z4cz11cz11515Cdz
  11dz1Edz1Z4dz11dz112k11a7xr315C4Chd2Fhd2a4hd2m2Zp41514Cjd2Fjd2a4jd2m2bp412C1a7dp41524CZ9FZ9a4Z9m
  2ep41511l7fp41514CwEFwEa4wEm2ip41521l7jp41511l7kp41511l7lp41511l7mp41551l7pp41521l7qp41511l7rp41
  531l7vp41511l7yp41531l7zp41511l7.p41531l7Xq41521l7Yq41511l7Zq41511l7aq41511l7bq41551l7fq41511l7k
  q41511l7nq41511l7qq41551l7rq41511l7sq41531l7wq41511l7zq41531l7.q41511l7_q41511l7Wr41511l7Xr41551
  l7ar41521l7br41511l7cr41531l7gr41511l7jr41531l7kr41511l7lr41531l7pr41511l7ur41511l7yr41511l7_r41
  551l7Ws41511l7Zp41531l7as41511l7ds41531l7es41511l7fs41511l7gs41511l7hs41551l7ks41521l7ls41511l7m
  s41511l7ns41511l7os415eD2B0l5012v11a7WX415fD2B0l501515Cuy11uy1Euy1Z4uy11uy11515Cvy11vy1Evy1Z4vy1
  1vy112a21a7iY512X21a7_r31535Cez11ez1Eez1Z4ez11ez11515Cfz11fz1Efz1Z4fz11fz115A4Ca6Fa6a4a6m2ps4151
  4CjPFjPa4jPm2rs41521l7ss41511l7ts41511l7us41511l7vs41551l7ys41521l7zs41511l7.s41511l7_s41511l7Wt
  41511l7Xt41511l7Yt41571l7bt41521l7ct41511l7dt415F01511l7jt41531l7kt41511l7lt41531l7ot41521l7pt41
  511l7qt41511l7rt41511l7st41551l7vt41521l7wt41511l7xt41511l7yt415T01511l7zt41511l7.t41571l7Xu4152
  1l7Yu41511l7Zu41511l7au41511l7bu41551l7eu41521l7fu41511l7gu41531l7ku41511l7nu41531l7ou41511l7pu4
  1531l7ru41521l7su41511l7tu41511l7uu41511l7vu41551l7yu41521l7zu41511l7.u41511l7_u41511l7Wv41511l7
  Xv41511l7Yv415dF2B0l5012X21a7YY415eF2B0l501515Cwy11wy1Ewy1Z4wy11wy11515Cgz11gz1Egz1Z4gz11gz11515
  Chz11hz1Ehz1Z4hz11hz11574CjCFjCa4jCm2Zv412Y21a7Xs31521l7av41511l7bv41511l7cv415501514CXx1FXx1a4X
  x1m2fv41521l7gv41511l7hv41511l7iv41511l7jv41511l7kv41511l7lv41511l7mv41511l7nv41511l7ov41511l7pv
  41511l7qv41511l7rv415D1l7uv41521l7vv41511l7wv41511l7xv41511l7yv41511l7zv41511l7.v41511l7_v41511l
  7Ww415dG2B0l5012Y11a7fY415eG2B0l501544Cgn1Fgn1a4gn1m2Xw41511l7Yw41511l7Zw41511l7aw415iG2B0l50151
  5CvD1vDEvDZ4vD1vD1515CvZ11vZ1EvZ1Z4vZ11vZ115201515Cfa11fa1Efa1Z4fa11fa11515Cqa11qa1Eqa1Z4qa11qa1
  16fC3D0n406om11525CxZ11xZ1ExZ1Z4xZ11xZ11515CwZ11wZ1EwZ1Z4wZ11wZ112oL4C0F01XZ1Z4012oL4C0F01YZ1Z40
  1535CWa11Wa1EWa1Z4Wa11Wa11515CYa11Ya1EYa1Z4Ya11Ya11515Cga11ga1Ega1Z4ga11ga11515Csa11sa1Esa1Z4sa1
  1sa11515Cwa11wa1Ewa1Z4wa11wa116oC3D0n406rm116oC3D0n406sm116oC3D0n406qm11545CyZ11yZ1EyZ1Z4yZ11yZ1
  1515ChN1hNEhNZ4hN1hN15101515C_Z11_Z1E_Z1Z4_Z11_Z11515CzZ11zZ1EzZ1Z4zZ11zZ11515CjN1jNEjNZ4jN1jN12
  rL4C0F01Xc1Z401525CXa11Xa1EXa1Z4Xa11Xa11515CZa11Za1EZa1Z4Za11Za11515Cxa11xa1Exa1Z4xa11xa11515CxD
  1xDExDZ4xD1xD151015101515Cia11ia1Eia1Z4ia11ia11515Cta11ta1Eta1Z4ta11ta11515Cua11ua1Eua1Z4ua11ua1
  1515Cya11ya1Eya1Z4ya11ya11515C.Z11.Z1E.Z1Z4.Z11.Z11515CuD1uDEuDZ4uD1uD151015101515CkN1kNEkNZ4kN1
  kN1515ClN1lNElNZ4lN1lN1515CmN1mNEmNZ4mN1mN1515Cbb11bb1Ebb1Z4bb11bb11515Cra11ra1Era1Z4ra11ra11515
  CyD1yDEyDZ4yD1yD151015101515Caa11aa1Eaa1Z4aa11aa11515Cja11ja1Eja1Z4ja11ja11515Cka11ka1Eka1Z4ka11
  ka11515Cva11va1Eva1Z4va11va11515C.a11.a1E.a1Z4.a11.a11515Cza11za1Eza1Z4za11za11515CiN1iNEiNZ4iN1
  iN15101515Cla11la1Ela1Z4la11la11515CnN1nNEnNZ4nN1nN1515CoN1oNEoNZ4oN1oN1515CpN1pNEpNZ4pN1pN1515C
  cb11cb1Ecb1Z4cb11cb11515Cba11ba1Eba1Z4ba11ba11515Cca11ca1Eca1Z4ca11ca11515Cma11ma1Ema1Z4ma11ma11
  515CYb11Yb1EYb1Z4Yb11Yb11515CWb11Wb1EWb1Z4Wb11Wb11515C_a11_a1E_a1Z4_a11_a11515CXb11Xb1EXb1Z4Xb11
  Xb11515Cna11na1Ena1Z4na11na11515Coa11oa1Eoa1Z4oa11oa11515CqN1qNEqNZ4qN1qN1515Cda11da1Eda1Z4da11d
  a11515Cha11ha1Eha1Z4ha11ha11515CZb11Zb1EZb1Z4Zb11Zb11515Cab11ab1Eab1Z4ab11ab11515Cpa11pa1Epa1Z4p
  a11pa11515Cr71r7Er7Z4r71r71515Cs71s7Es7Z4s71s732Z96BzJ1s3Z1y6b1s3f2s3p503211l1z612jC51cp3P_b4a7m
  o21ls2Hls2A8pB4f3_l3t1hZ4x4.a4v1.a412zB2DvY4wAbi416mB2Bgd1l5_b212XB1p1wj4A8tB1f3am322sB4BeSo4vRa
  4gx4m1hZ416xA4Rrq2a4pq25qq2Mdb415k92Rtq2a4tq216zA2Bgd1l5ac21261p1tj412hA1p1Wk412YB3Ctp31.Y4cBjx4
  1664Rwq2a4uq25vq2Mhb415H5CiO1iOEiOZ4iO1xq21572Ryq2a4yq212c31a7pn31261p1zj41545CjO1jOEjOZ4jO1zq21
  515CkO1kOEkOZ4kO1.q21241a7rn31562RWr2a4Wr21535ClO1lOElOZ4lO1_q21231a7tn31211a7vn31211a7xn31211a7
  zn3A8M4f3uv3t1oZ4x4sb4v1sb416L2Bgd1l5oc2A8O1f3xv316H2Bgd1l5rc2A824f3fj3t1pZ4x4vb4v1vb4A831f3ij3A
  814f3zw3t1qZ4x4xb4v1xb4A821f3Xx312r41a7ya412dD1m1Yo21221a7Wb412x61a7jZ51221a7Yb41221a7mZ51221a7c
  b41221a7xZ51211a7.Z51211a7_Z51211a7Xa51211a7ca51211a7ea51211a7ha51211a7ja51211a7la51211a7na512B1
  a7rb412H2m1pw3w2us21221a7tb41241a7ua51211a7_a51241m1lf412m11p1xj41231a7.b51221p1uj412i11p1Xk4123
  1a7_b51221p1.j472aE11vs2B906Z3af22Yr22Yr21uOw11f6Zd4C906a3af22Zr21Zr21uOw11g6ad41506Fap1Cbt2j21t
  1bt231Eb.472411012C2m1gw3w201506Cxr1Fet2j21t1et231Y6gd41513Rft2a4ft2b6hd412068nW24Wn1Y1za2w11w11
  d6oi412B3a70The5p2x.4B994Z3bf22xk12xk1a8rd4C994a3bf22yk11yk1b8sd41555ClW2Fgu1a4gu1b606ud415A3Rqw
  1a4qw1Hc_412064tW27t_1z21w11Fye51ye512tI4C010R0Bxa21211p1_n215A3Rlt2a4lt2b6xd41512Rmt2a4mt212aJ5
  Cxu2Gxu2C0d6t_4_101625Csr1Fsr1a4sr15sr1W601206Bru21po2y21d1ru2J1k6zd412H23xp3j1012xG4S0J0j6zv2q2
  Zx212mD3C0Gpr3_1012068qx14gv2l2gv2D1w11q5dW512H2X8Yf5p2eW512061dt1Jht1d2gq2D1w11p5fW5B9I3Z3of32u
  v22uv2C9I3a3pf32vv21vv212061fy3d31w11v1Wn5a2.q3W1de415J3Chl4Fkh1a4kh115hE5GXX21XX2AXX2a4XX2L012_
  23Csv21sv2wA015G3CWl4Fiz1a4iz112G3C_u2G_u2p6WX512F3Bsu2a4su2X7fe412B3Qm8d7zj3p2aX512D3Civ2l2iv2x
  7bX5A706d3kl4111We21We2s1We22112YE1j1012sJ3C0Y10l2ag312cJ5Cyl4W2020W20Z7Ze412J2S0Iwr312H1x2YY4A7
  64d3YX22YX21YX2s1YX222fJ2q20y7012068ob4MYn11Yn1f21w11j2uX512C3Bzv21xl4Z4zv212J31uW4.8qx3W1wk4224
  3Bee3o4gk4r6me42212Bfe3o4hk41291k1ox31211k1px31212e1hg3602243Byf31.l4n4zl412i33CWw21Ww2cB015P4Ga
  X21aX2AaX2a4aX21251k1sx31211k1tx31211k1nk41211k1ux31211k1vx3B9Z14Z3yh22br22br2a8_e4C9Z14a3yh22cr
  21cr2b8Wf415q13Rjq2a4jq2HwY572.11l1he415n13Rkq2a4kq2b6Yf41513Rlq2a4lq2b6Zf412z12k1Zb2x9_w4B9y11Z
  3zh2C9y11a3zh21573Rmw1a4mw1HdZ515t12Rnq2a4nq21512Roq2a4oq212q14QZ6w1eh3e5lz1q2mz112q11SZm312X11x
  2yr212G1k1vm31221x2rb412Q1e1pg3B9B4Z3fg22dr22dr2a8if4C9B4a3fg22er21er2b8jf4B9D1Z3hg2C9D1a3hg212A
  4Qrr1w1nr1e5x_2q2ca312A1Swv31291k1.v31281e1vg3B964Z3ef22gr22gr2a8qf4C964a3ef22hr21hr2b8rf4B981Z3
  ff2C981a3ff21284Qe2w1lh3e5.m1q2_m11281Shj31281k1.j31281e1Xh3B964Z3xj22ir22ir2a8yf4C964a3xj22jr21
  jr2b8zf4B981Z3yj2C981a3yj21284Qyt1w1qt1e5cb3q2tf31281SWx31281k1cx31281e1dh3B964Z3ki22kr22kr2a8ag
  4C964a3ki22lr21lr2b8bg4B981Z3li2C981a3li212s22Qaw1w1un1B934Z3ii22mr22mr2a8fg4C934a3ii22nr21nr2b8
  gg4B951Z3ji2C951a3ji212j31m1ow312v22X8Xh5p2wb51212X8fh5p2zb512D1e1kh31222X8hi5p2Xc51212X8mi5p2Yc
  51212X8nj5p2ac51212X8sj5p2bc51212X8rk5p2dc51212X8wk5p2ec512wG48Zk45vLR0c801222X8zl5p2ic51212X8Xm
  5p2jc512s21z3sh312B1e1vh31221z3wh31211z3xh31211z3yh31262X8ao5p2mc51212X8eo5p2oc51231z3zh31211z3.
  h31205Qxo33Wc4h21w11UZ115051Xc4QXt2j21t1Xt23115131Yc4QYt2a4Yt212e439aq2I0a4012051or2Aok1z21w117c
  d412051db36cb3X31w11y3sP12948zi4I0d70p2xd512058Zb44Zx13Zx1v21w1112k64805Zo2R0_9ci41214Cub11fm2vA
  di4101211cBei41231dBfi41205Bzi1Tzi1Bzi1r11w111205Ctm3Gab4i21w11j6ji412k41801214Ciq1Y1na2w9ni4101
  211eBpi41231fBqi412h22x20w7th41205Bpu2z21d1gNJ1s3ee512w22l1Zf1501214QxW1Leb2b10e5mw21205Cna4l2oX
  4D1w11q6vi412051mW4d31w11y2kq31me512mP4Q0w10e50q2012131fl2i1mw3Y2gl212gL410w60Svd4c1015P410Ehc2C
  hc2a4hc212H4Chw31qr2rA_i45012149nW43Wu21Wu2rA01214903vs11vs12vs112O18Ye412339Xj43Zx11Zx11214903p
  v31ms2sAZj412051ta3d31b1hb3L1v1bj412P1DWo312P1Dtw31211Duw31231DYo31212Cal41.d21232Cbl41_d215XI2U
  01012Z448cb2Mzo11zo1m6012V3B.i1T.i1B.i112V3Cxm3Grr2pAhj41205BdQFqW4k21w11OpO1224Cwq1Gwq1Iwq1XA01
  2o33Cjz1Y1jz1x9012W11k1ao312W11k1vw31222Cel4Y1wq11222Cgl4Y1jz115e51a501224Cyg4Y1um2x90Eoj412.11e
  1012r43B01mi4l2Xl212Y13Cqa4l2gq2x8pj422nJ3k40p40m1WR1284CkRGla2I0w9sj41211eBZz412S39sW43Xu21Xu21
  5Y13Fic2Cic2a4ic212Y13Clw31ur2rAuj412X129eb46012051.a35kv1Y31w11f3pW512121_a3g8qW512X13Cqv31os2s
  Axj41564F0C_W2Khb2m3_W21511l1ib212M3CZX21ZX2X1015I3Cmc2Fmc2a4mc21513Cnc2Fnc2a4nc215k52Ciz1uA012U
  3B_i1T_i1B_i112U2Cwl4GXe21533Cuc2Fuc2a4uc212L3Bek41uk2l2012q131sm2i1sr3Y2tm212131fq3i1tr3Y2gq312
  131jq3i1ur3Y2kq312131nq3i1vr3Y2oq312S3Cbh4Y1vm2fAbk412Q2Cam4l2ae222Q1nAxR12F4804pp31dh4cBfk412Q1
  Sjl315P3Fjc2Cjc2a4jc212P2C.k41yd212N21Wb3g8lX512121Xb3g8mX512O2C_k41zd212X23Z3u11v1p4vf515r5380t
  4ic4m2012K3BWj1TWj1BWj11205Sjc4C.m1W21w11i4zf515K3Cwc2Fwc2a4wc21513Cmd2Fmd2a4md21513Cyc2Fyc2a4yc
  21513C_c2F_c2a4_c212N4BYe21Ye2Z4Ye2Y7012J2Cbm4Y1be2A8W64d302wd21wd2s1wd212q21rAfW512J3Cqp31jh4cB
  xk41212Crp31lh415J3Fkc2Ckc2a4kc21583Cjb1Fjb1a4jb11513CXd2FXd2a4Xd21513CZd2FZd2a4Zd21513Cnd2Fnd2a
  4nd21513Cod2Fod2a4od21513Cad2Fad2a4ad215601510151015101513Cvw1Fvw1a4vw115101513Cbd2Fbd2a4bd21540
  151022cJ2q20y7012I2CWm41_l41533Ccd2Fcd2a4cd21513Ced2Fed2a4ed21513Cfd2Ffd2a4fd21513C.KF.Ka4.K1513
  Cpd2Fpd2a4pd21513Cqd2Fqd2a4qd215301513CoOFoOa4oO15101513Clb1Flb1a4lb1154015101540151015501540151
  0151015101560151015701540151015101550151015601520151015301513Czw1Fzw1a4zw11510159015101510151015
  101590151015A015401530151015401513Cgd2Fgd2a4gd21513CY9FY9a4Y91513Cid2Fid2a4id21513CvEFvEa4vE1513
  Crd2Frd2a4rd21513Csd2Fsd2a4sd2155015101513C_KF_Ka4_K1513CqOFqOa4qO151015801550151015601520151015
  3015801510159015501510156015401510154015101550154015301510154015201510153015H0151015901510151015
  101580151015901540151015401510155015201510153015G015101510151015B0157015701530151015401510155015
  40151015101510156015101570154015301510154015201510153015N015101590155015101560152015101530158015
  101513Ca9Fa9a4a91513Ckd2Fkd2a4kd21513Cld2Fld2a4ld21513CzQFzQa4zQ1513Ctd2Ftd2a4td2155015101513Ch6
  Fh6a4h615101513CxEFxEa4xE15401510151015101560151015701540151015G01550151015601520151015301580151
  0154015101550154015101510151015G01570151015801540151015401510155015201510153015201510153015G0151
  015C015501510156015201510153015801510151015101560151015701540151015G0155015101560152015101530158
  01510159015501510156015401510154015101550154015301510154015201510153015H015801540151015501520151
  01530158015101510151015601510157015401510151015101513Ci6Fi6a4i61513CtCFtCa4tC1513C.QF.Qa4.Q15301
  51015101510156015101570154015101510151015101510158015101590154015101513CWx1FWx1a4Wx1155015101510
  151015801570151015401510155015401510151015101560151015701540151015101510151015701510158015401510
  151015101560151015701540151015Z10155015101560152015101530158015101540154015301510151015101560151
  015701540151015101510151015101513CuCFuCa4uC1510151015101513Cfn1Ffn1a4fn115101513CYx1FYx1a4Yx1154
  01510151015101510151015101510151015101510151015E0151015F0154015101510151015101510151015101513Cdn
  1Fdn1a4dn115101510151012lC4Cjd1Ggu1iA02dw422iB4Bie310Y4hu1Fhu11222Cil4Gkh12223Bje3Z4iu1Fiu12213B
  ke3Z4ju1Fju122mB3BjT1x9n4x92213BkT1y9n4y912cF31rb36sb3t8nY412dE2DWq2wAxw412dE2Dxl2vAyw41211cBei4
  1231dBfi412cD3Cnn3GwW4pAzw412qH18012YE2k1ja2w9.w41211eBpi41231fBqi412WF3QZ6Lqc4j6ry112aD3Cua4l2q
  b4x8Zx412dD31Yl2i1gy3Y2Zl212A1Duk312A1Dx_31211Dz_31231Dvk312oD2Csn3Gbq212A1k1wk312A1k1._312xC3Cq
  h4Y1Ym2fAfx412gE3i2ig32jg3W2so112gE2Cqi4l2Zm212mD2Cva4l2yr222mD3BeSo4vRq5gZ412lD2Sia2iAix41211eB
  Zz415ZE2RmW2a4mW21511l1ib212aD2Crh4Y1am22261nAyZ412mC3Cup31_Y4cBkx41261SWj312oC2Cvp31ZZ41212Cwp3
  1bZ412J2Das2vAqx41211cBei412K3Cwn3GWW4pArx412S3Qrr1Lzc4j6rY31231Dmc41211Dnc412O2Cxn3GXq212D3Csh4
  Y1yn2fA_x412fM2R0a4012M2Csi4l2ql212D2Scc2iAWy41211eBZz412Z131wm2i1ys3Y2xm212131.r3i1zs3Y2_r31213
  1Ys3i1.s3Y2Zs312131cs3i1_s3Y2ds312M2Cth4Y1zn21261Soi412F3Qe2LYd4j6wm11233Cuh4Y1tl2fAdy412C3i2wg3
  2xg3W2to112C2Cui4l2wn21252Sqa2iAey41211eBZz41282Cvh4Y1ul21221SXp31283Qyt1Lfd4j6fc31233Cwh4Y1up2f
  Apy41283i2sn12dq1W2fq11282Cwi4l2vp21252Sva2iAqy41211eBZz412H31rn2i1Wt3Y2sn212131nt3i1Xt3Y2ot3121
  31rt3i1Yt3Y2st312131vt3i1Zt3Y2wt312C2Cxh4Y1wp21261Skt31292Cyi4l2yp21222Sya2iAuy41211eBZz41211Sfw
  31212S_a2iAxy41211eBZz41211Sxx312xH3Qzo33nd4Z5p112vH1m5wY512vH21_r2e5Xf412uE1rAtw412gH1Qm_112fH3
  1.W4z7rs31bh51205Mpe4Aaf1e21w11PrQ1282Cfl4Gwq112dY1290b101251Qaw112_H28mh3iAZo512yG18gb212eI1z30
  12qI28bk4501204Q.t1k21w11l1X11211n6Y11211n6sz41211n6a112WH2Q0W5bN15d23RZt2K0m3Zt21512RxW2a4xW212
  43Ql5t50m1Xq312041iX43td4a31w1112lI1901211m5wu31213Cja43au2X501283BiW4l50IzP1263Qon2c5b1X201582R
  gt2a4gt21512Rht2a4ht21512RyW2a4yW21512RzW2a4zW21263BsPX60q1mY212F2Bgd1l5oY212D1X8ke512H1w5bQ1213
  Bjm2l50f3dQ12F31ji330h3ki312eI1j1012j32l10j6yY21243Bom1e1om1m7015A2Rtg4a4sg412K21pX43We412J1m5kv
  312J3Cbu21bu2201253B_n3e10Y5k_41552Rkt2a4kt21512R.W2a4.W21242C_d21_d21212C.d21.d212F1w5o_412mG3S
  0Co2c8dj412G1Z9qQ1243Cwu210Fwu212b12Qqx3t5oO1251w5uQ12aI18012P2Bor1r7v612Q1W8oZ212Q1w5qZ21211w5t
  Z212R1X8zv312B2e1.m1c8bW51221X8Xf51283Cfv2Y10j1fv212R21er3k3fr312121hr3k3ir312121jr3k3kr312T2QxW
  1Y7vd112U1y7Xa212U2Brm1e1rm11212Bsm1e1sm11212Bqm1e1qm112F1W8Ya215R2R_g4a4.g412aJ21cb4i401522Rnt2
  a4nt21242BiY1r7qO1522Rpt2a4pt21512Rqt2a4qt212V2Ccu21cu21522RZh4a4Yh41512Rhu2a4hu212S1w5uW512gI18
  01221w5wW51222Cbl11bl112E1W8aa212S1w5ca212a12CXe2GXe21212C.u2G.u21212Cyu2Gyu21252BhY1r7zk212a11W
  8.61261w5ra21212But1l5W712X12Qm8d7yj312lI1j1012121dq3k3eq312121hq3k3iq312121lq3k3mq312b12Chv2l2h
  v212d11X8vw312321Yi3k3Zi312g11k9cX512n12CXv2Y1Xv21212CZv2Y1Zv21262Cjv2l2jv21261X8tf51222Cae2l2ae
  212H2Bpr1r7vR12I1W8X712P1W8wa212R2Cyd21yd21212CYu21Yu212c11W8uO12L2BXn1l5wO1221W8xO15a12Rhh4a4gh
  41252Ceu21eu21212Cdu21du21212Czd21zd21542Rj1a4j112c11w5oX51232Ccl11cl11221w5qX51222Cdl11dl112F1W
  8xa212Y11w5ya21211w5za21231W8.a212u3380Mrp21rp212f12CWv2GWv212f11W8Zl21211W8bl212e11w5Z712e11X8g
  k312S2Ckv2l2kv212W12CYv2Y1Yv21212Cbe2Y1be212U1W8fS12F2Cuu21uu212V1W8a71231W8mS1232CZu21Zu212T1w5
  zO12T1W8.O1232Cgu21gu21212Cfu21fu215R2Re4a4e41222Cfl11fl112Q1w5.X51222Cel11el11221w5WY512P1w5ib2
  12P1W8jb212P2Uep21pp212N1W8gl21251w5_O1233UXg3109gg31282C_v21_v212I1W8wS1222Chl11hl11251w5ZY5122
  2Cgl11gl11221w5bY51211w5WP1232Cil11il11221w5dY51222Cjl11jl11221w5fY51222Ckl11kl11221w5hY51222Cll
  11ll11221w5jY51222Cml11ml11221w5kY51222Cnl11nl11212Cal11al115U2RhFa4hF1512RjFa4jF1512RiFa4iF12k1
  2QiSd7ue312Q1W8tp11282Bwn1l5vp112e11w5sY412c42Bkm2u8uY412q221ai3k3bi312W81j1012u32Qe2Y7zp11592Ru
  Y4a4tY41262BYVl5no21261Z9bZ412c11W8zb212B1W8dq112B1w5fq11211w5iq112921cm3k3dm312121fm3k3gm312121
  hm3k3im312B2Qm_1Y7os212C1y7mq11281W8nq115D2RzY4a4yY41512Rsq2a4sq212x11W8nZ412F1w5oo21211w5po2126
  1W8pq112D1w5rq112H1W8Zc21221w5tq112w11w5bc212E21lm3k3mm312121nm3k3om312121pm3k3qm312121rm3k3sm31
  2121fi3k3gi312D1W8wZ41291W8cc212C1W8uq11231W8Ya41211W8Za412G1w5qo21211w5ro21251W8vq112F1w5wq1121
  1w5xq11231W8yq112H1w5fc21281W8ea412C1W8gc21221W8ja41211W8la412A1w5so21211w5to21291w5.q11291W8_q1
  1251W8qa41241w5uo21211w5vo21211w5wo21211w5xo21211w5yo21211w5zo21211w5.o212k31X8bc312G1W8mc212V21
  ct3k3dt312121ft3k3gt312121ht3k3it31241W8qc212N1w5sc212.81j1012121yr3k3zr312121Ws3k3Xs312121as3k3
  bs312121mi3k3ni31271W8tc21271w5vc21221W8wc212421kj3k3lj312121nj3k3oj312121pj3k3qj312121sj3k3tj31
  2121uj3k3vj312121wj3k3xj312121yj3k3zj312121oi3k3pi312121Yw3k3Zw312121bw3k3cw312121dw3k3ew312z81j
  1012121lt3k3mt312121pt3k3qt312121tt3k3ut312121qi3k3ri312121si3k3ui312121hi3k3ii312c81n6n11211n6o
  11211n6q112l71m5wY512W81W6r112m51X8ah51211X8ab41211X8eh512q621tb4w6ex41221X8gb41211X8sh512f31w5i
  b41211w5lb41231X8ki51211X8li51211X8yi51211X8qj51211X8rj51211X8Yk51211X8uk51211X8vk51211X8cl512Z8
  21sZ43qf41221X8.l512221xZ43sf41221X8Wm51211X8am51211X8bo51211X8sc41211X8do51211X8uc41211X8io5DA0
  3e3uO4bb3s1112v42Ut9A01212U0Iqd412121Xy3l1012111Zc412120cm410121200p1zv312128lY4h101212802rd4125
  11qw3121210n1ac412129vd4f10121290e3em212h91C012718gZ412611bc4121210Rel21212S04cc41212Bpu2L012D1p
  1xa21211p1_n21211p1jw31212p10z1em212918wZ4E2O2h3zn310122280c3nr31212r1la4v1012C11at3121210d4lr31
  212l1zd4v201291p1yh412411or212111js212111rw312W11m1_d412C18dc412311ec4121210Cqr212211qX412111sw3
  12518.f312211Xe41251Dms212U1Faj412X119bb412411Zo312111bo312718ka4121280W1.p31212Rcn2D012Y11Sli31
  212S0.2ae412611by312Z11Brj412S1r1pa41212k1um27012Q1p1_f312511dr312111gr31231p1zh412I1Dar212B1Shl
  212411ei312111be41291k1il212211ww312N1FWj412211wX41221FZj41212F0.3Ze412Q19fb41231Fbj41212F0Bgb41
  221FYj412Q1e1zf312Q1Rqn212C1k1mx31212j1cq31012J1p1Yg31211p1Zg31261e1bg31251k1jl21212k10g3vk212A1
  Fcj41241e1cl212O1Sut21211Svt21211Siq212D1Rtn21281k1nx31211k1pq31211k1qq31211k1rq31211k1sq31211k1
  tq31211k1uq31211k1vq31211k1wq31211k1xq31211k1yq312L1p1dg312I1Fdj412F1Sta41211Swt21211Sfr21211Spr
  21211Skc412N1e1fg31291k1rx31211k1zq31211k1.q31211k1_q31211k1Wr31211k1Xr31211k1Yr31211k1Zr31211k1
  ar31211k1br31211k1cr312D1S_h41211SXi41211Sxt21211Sxr212w31Ue512O1p1Yx312k218gb212o31n3wl21251Szt
  21241p1bx31211p1ex31211p1ix312j31m3wl212718lb4E2j31h3kl312j31k3.l312a211Wm312i31e4ll31271p1Yi412
  311pg412111qg412D1SZi412N1k1Ym21251p1kg312411bm312111em31231p1ai41261Slm212311mp31271k1al21241p1
  mg31211p1ng31231k1bl212c21u4xk21221k1wm31211k1ym31211k1zm31211k1.m31211k1_m31211k1Wn31211k1Xn312
  11k1Yn31211k1Zn31211k1an312D1p1og31221k1cn31211k1dn31211k1en31211k1fn31211k1gn31211k1hn31211k1in
  31211k1jn31211k1kn31211k1ln312S1Sdl2E2g11h3qo312g11k3tv312U11vv312g11e4mv312G1p1bi412311.k312111
  _k31281Sci312A1k1yn21251p1qg312411bt312111et31231p1ci41211p1sg31211p1tg312c11u4.k21281k1es31211k
  1fs31211k1gs31211k1hs31211k1is31211k1js31211k1ks31211k1ls31211k1ms31211k1ns312C1p1ug31221k1os312
  11k1ps31211k1qs31211k1rs31211k1ss31211k1ts31211k1us31211k1vs31211k1ws31211k1xs312U1SWt2E2c11h3do
  312c11k3ej312T11gj312c11e4Xj312G1p1di412311Xl312111Yl31281Srg412A1k1tl21251p1yg312411jj312111mj3
  1231p1ei41211p1.g31211p1_g312c11u4yk21281k1_j31211k1Wk31211k1Xk31211k1Yk31211k1Zk31211k1ak31211k
  1bk31211k1ck31211k1dk31211k1ek312C1p1Wh31221k1gk31211k1hk31211k1ik31211k1jk31211k1kk31211k1lk312
  11k1mk31211k1nk31211k1ok31211k1pk3E2b11h3bp312b11k3yw312S11.w312b11e4nw312F1p1fi412311YW412111ZW
  41281k1up21241p1Yh312311eZ412111fZ41231p1gi41211p1ah31211p1bh312a11u4_k21281k1xt31211k1yt31211k1
  zt31211k1.t31211k1_t31211k1Wu31211k1Xu31211k1Yu31211k1Zu31211k1au312C1p1ch31221k1bu31211k1cu3121
  1k1du31211k1eu31211k1fu31211k1gu31211k1hu31211k1iu31211k1ju31211k1ku312Q11Xw312111aw3DAW91i3ib31
  2211aW412111oc412111hx312111pc412e81l1ke412J1p1hi412311jx312111uc412111kx31241p1fh31211p1ii41231
  1lx31221p1hh31211p1ih312d11u4zk212q21Sws21231p1jh31221Sxs21211Sys21211Szs212w51Uv51251p1_y312p51
  8wa41221p1gz31211p1rz31211p1_z312418lc4DAS1i3mb312O1l1ue41291UYD1251p1bW41211p1cW41211p1dW41211p
  1eW412818nf4DA81i3ob31281l1Wf41281UoD1251p1jW41211p1oW41211p1rW41211p1tW412818wf4DA81i3pb31281l1
  cf41281UpA1251p1xW41211p1zW41211p1_W41211p1WX412818zf41271l1if41271UZD1241p1ZX41211p1dX41211p1hX
  41211p1kX412718Xg41261UpD1231p1vX41211p1xX41211p1_X41211p1XY412618ag41261UdC12WA1m1jf41241p1_x31
  2418pb412zA1Akf41231p1Wy31211p1ay31211p1cy312518sb412q91r1xa412_111YX41241p1ji412211_r212C1m1mf4
  12618od412118nh31251p1oh31211p1ki412x81Run21221p1qh31211p1rh312h81e1th312e21u4Wl21251Rvn21241p1u
  h312A18cb212Q1UnD1231p1z.312318md41221p1e_31211p1p_31211p1y_312418ie412O1r1ya412218tf41221r1za41
  2218yf41221r1.a412218Wg412118Zg412_B1o1pd41241r1_a412U11fW412111vs212111ha412M1Rmn212211pf412111
  ia41271r1Wb4w2A94J0W40Wl50Wi2BT160m11Wz30_tp101X101Y101Z101a101b101c101d101e101f101g101h101i101j
  101k101l101m101n181w101x101y101z101.101_101W20CX2P502P5W12.k52.h2DR342k13.y32ztp12_dWW11x201y201
  z201.201W301x301y301z301.30Da10TP502P5W12.k52.h2DR342k13.y32ztp12_dWW1Ca10TP50W1W12.k52.h2DR342k
  13.y32ztp12_dWW11X3P509212J2u12Yz_X12A030509212O2p12Yz_X1D086H2D2g13Y22.k52.h2DR342k13.y32ztp12_
  dWW1B9022J0W40Wl50Wi2BT160m11Wz30_tp101A0Ea10C98P502P5W12.k52.h2DR342k13.y32ztp12_dWW11m192Y20W1
  02b20W102l20W102u20W101_201k3060C2X1962q1212cy_X12D0o101m171r301u30Da10C98P50W1W12.k52.h2DR342k1
  3.y32ztp12_dWW14092Z12g13Yz_X13092m23Xz_X12092q__X11m112h10203m1985R52A0.W8120f12q._X1409212vW83
  r.tX130f1232l._X11X301Y301Z301a301b301c301d301f301h301i301j301l301m301o301p301q301s301t301v301e3
  01g301n30n60GZ10G11H02I03J04K05L06M07N08O09P0AQ0BR0CS0DT0EU0FV0GW10HX10IY10JZ10Ka10Lb10Mc10Nd10O
  e10Pf10Qg10Rh10Si10Tj10Uk10Vl10W1m10X1n10Y1o100GW10111p102I03J0Z1f106q107N08O09P0Ar10Bs10CS0Dt10
  EU0Fu10GW10HX10IY10JZ10Kv10Lw10Mx10Ny10Oe10Qg10Rz10Si10Uk10V.10W1_10X1n10Y1o1000Y10211H02I03W20Z
  1f105L06M07N08O09P0AQ0BX20CS0DY20EU0FZ20GW10HX10IY10JZ10Ka10Lb10Mc10Nd10Oe10Qg10Rz10Si10Tj10Uk10
  Vl10W1m10X1n10Y1o1000R0311p102I03W20Z1f106q107N08O09P0Ar10Bs10CS0Dt10EU0Fu10GW10HX10Kv10Ny10Oe10
  Qg10Rz10Si10Uk10Vl10W1a20Y1o1000Y10411H02I03W20Z1f105L06M07N08O09P0AQ0BX20CS0DY20EU0FZ20GW10HX10
  IY10JZ10Ka10Lb10Mc10Nd10Oe10Qg10Rz10Si10Tj10Uk10V.10W1b20X1n10Y1o100GY10511H02I03W20Z1f105c206d2
  07N08O09P0Ae20Bs10CS0Dt10Ef20Fu10GW10HX10IY10JZ10Kg20Lh20Mi20Nj20Oe10Qg10Rz10Si10Tk20Uk10V.10W1l
  20X1n10Y1o1000R0612I03W20Z1f106q107N08O0Ar10Bm20CS0Dn20Eo20Fp20GW10HX10JZ10Kv10Mx10Ny10Oe10Qg10R
  z10Si10Uk10Vl10W1_10X1n1000W10711p102I03W20Z1f106q107N08O09P0Ar10Bs10CS0Dt10EU0Fu10GW10HX10IY10J
  Z10Kv10Lw10Mx10Nq20Oe10Qg10Rz10Si10Uk10V.10W1_10X1n10Y1o1000M0812I03W20Z1f107N08O0Ar10Bm20CS0Dn2
  0Eo20Fp20GW10HX10JZ10Kv10Oe10Qg10Rz10V.10W1r20X1n1000S0s211H0a1f105c206d208O09P0Ae20Bs10CS0Dt10E
  t20Fu10IY10JZ10Kg20Lu20Mi20Nv20Qg10Rz10Si10Tk20Uk10b1w20V.10W1x20X1n100090y214z20B.20D_20Fp20IY1
  0NW30RX30Uk10004c1Y30d1Z312I0RX30004e1a30d1b317N0RX30006f1c30g1d30h1e31Fp20Qf30Rg300020e31FV0100
  0GZ10G11H02I03J04K05L06M07N08O09P0AQ0BR0CS0DT0EU0FZ20GW10HX10IY10JZ10Ka10Lb10Mc10Nd10Oe10Pf10Qg1
  0Rz10Si10Tj10Uk10Vl10W1m10X1n10Y1o10M01Lh30a3000031i30Z1j30Rk30203i1f10Rz10Vl30p201Lm30j2026n30L
  o30b300R00T00502Ap30Lq30m203Br30Ls30Nt30D00n203Du30Lv30Nw30m102Ex30j1y30i300l309Ez30G.30HX10k1_3
  0l1W40m1X40n1Y40o1Z40p1a40l305Ez30j1X10l1W40o1b40p1a40f100S00r202Kc40Ld40902Le40Mf40y202Lg40Mh40
  .302Ei40Nj40v300202i1f10Rz10k100005q1k40r1l40s1m40t1n40u1o40l100k201Lp40g300C01W1q40l203Lr40W1s4
  0X1t40E00_200M00j200500m201Br30n201Du30o202Au40Fv40r200901Mf40y200.300001t1w40C00l201X1t40002Z1j
  30Rk30m202Br30Ls30n202Du30Lv30o203Au40Fv40Lx40l200l202Lr40W1s40p200j2016y40501Az40m101j1y30r202K
  .40Ld40901Le40y202Lg40M_40.302Ei40NW50k200l202W1X50X1t40m200n200002Ex30j1y30002Au40Fv40.301Ei400
  01X1t4000R0s211H0Z1f105c206d208O09P0Ae20Bs10CS0Dt10Et20Fu10IY10JZ10Kg20Lu20Mi20Nv20Qg10Rz10Si10T
  k20Uk10V.10W1x20X1n10m100001Le40002Ei40NW50k303v1f10Rz10b1w20l201W1X500080y214z20B.20D_20Fp20IY1
  0NW30Uk10001Vl30001Nt30001Nw30001IY50005q1k40r1l40s1m40t1Z50u1o40c301c1Y300030Z312I0Fp20d301e1a3
  00030b317N0Fp20j303w1c30Qf30Rg30j306f1c30g1d30h1e31Fp20Qf30Rg300020e31Fp20003x1f30Ra50Sc30001y1c
  30v201Lb50301y1i30m302i1j30Rk30001t1c50h300y100e201Ld50.100q201Le50w100Y300u100001If50Z300v10000
  1Ig50001Eh50l303j1y30l1W40o1i50l302j1y30l1W40l303j1.30o1Z40p1a40001z1j50002.1k50j1l50001s1m50001
  _1n50001j1.30l300001j1X10i201Lo50s200t201Lp50q100x200g202Lq50Mr50r100z201Ls50e300e301W2k40e301s1
  t50002_1u50Vv50001_1w50z100.400_100f201Lx50_400002X2u40Ay50f301Y2v40002_1z50V.50x100e200q200i200
  g201M_50z200f200s400002_1W60VX60001y1f30w200002_1Y60VZ60a200Z200r400q400d200001j1y30l303z1j50o1_
  30p1a40001j1l50l302j1l50o1k50l303s1m50o1X40p1a40l303_1n50o1Y40p1a40Y200u200W200h201La60c200e301s
  1k40001_1b60001_1c60001_1k40b200003Z2u40Ay50Fd60001_1e60001_1f60h200001_1o40001_1g60001_1h60001_
  1i60X200001_1j60002_1c60X1k60f300001_1l60002_1f60X1f10002_1g60X1k40001_1m60002_1i60X1j30001_1k60
  e302i1f10Rz10001_1f10001_1j30_A00M001a210b220c230d240e250f260g270h280i290j2A0k2B0p1C0l2D0m2E0n2F
  0o2G0p2H0t1I0q2J0r2K0s2L0005b2M0c2N0p1O0o2P0r2Q0002l2R0n2S0003a2T0j2U0l2V0002e2W10l2X10003j2Y10p
  1Z10u1a10005a2b10h2c10l2d10n2e10t1f10002e2g10j2h10004f2i10k2j10p1k10o2l10001e2m10001e2n10002e2o1
  0l2p10003a2q10e2r10t1s10003b2t10f2u10q2v10002n2w10t1x10001e2y10006a2z10e2.10p2_10t1W20r2X20s2Y20
  004a2Z20t2a20n2b20s2c20002p1d20o2e20002a2f20l2g20002t2h20h2i20001h2j20001o2k20001c2l20001s2m20A0
  2o2n20s2o20001a2p20001l2q20001e2r20002o2s20p2t20001a2u20001p1v20004b2w20c2x20f2y20j2z20Y100001o2
  .20001t1_20002m2W30p2X30001j2Y30001p1Z30001n2a30001l2b30001p1c30001p2d30001l2e30O00001m2f30V03f2
  g30o2h30p2i30v400001s2j30001p2k30001p2l30001d2m30001k2n30002q2o30r2p30002j2q30k2r30001u2s30W1000
  01e2t30002h2u30l2v30001b2w30003a2x30v2y30p2z30001p2.30001p2_30002a2W40n2X40001m2Y40001h2Z40001k2
  a40001n2b40002h2c40n2d40002t1e40s2f40001m2g40003d2h40h2i40i2j40001h2k40001n2l40001h2m40001h2n400
  01p2o40001e2p40001p2q40001e2r40b400001e2s40001p1t40001h2u40001j2v40001a2w40001e2x40001c2y40001o2
  z40002o2.40p2_40001t1W50001j2X50001a2Y50001e2Z50001e2a50001k2b50001l2c50001e2d50001o2e50001a2f50
  Q00001k2g50001c2h50y300001b2i50002j2j50l2k50001e2l50001p2m50001e2n50001l2o50K00001a2p50001t1q500
  01e2r50001e2s50s100001j2t50001b2u50001e2v50001n2w50001q2x50001p2y50001j2z50001d2.50001t1_50001t1
  W60001h2X60z300001p2Y60001h2Z60001e2a60001p2b60001b2c60001g2d60001o2e60001l2f60001e2g60Z100001e2
  h60001e2i60001v2j60001p1k60001p1l60J00001d2m60001j2n60001t2o60001j2p60001n2q60001o2r60001n2s6000
  1c2t60001p2u60001e2v60001i2w60g100001t2x60001o2y60001p2z60001h2.60001g2_60001a2W70001t1X70001p2Y
  70N00p400001n2Z70001p1a70001e2b70001j2c70G00001p2d70001a2e70001e2f70001n2g70001n2h70001a2i70001n
  2j70001f2k70o300001j2l70001o2m70001n2n70t300001e2o70001c2p70001n2q70001a2r70001e2s70001h2t70001l
  2u70001h2v70001n2w70001o2x70001h2y70001p1z70001n2.70001c2_70001l2W80001e2X80p300001r2Y80r300701l
  2Z80001f2a80001t1b80001l2c80001g2d80W300001e2e80H00001d2f80001a2g80001o2h80001p2i80o100U00001a2j
  80a100h100n100L00001p1k80001g2l80001n2m80001j2n80001e2o80001p2p80001d2q80s300001j2r80001h2s80001
  j2t80001k2u80001p2v80u400001p1w80001f2x80w400001e2y80001m2z80z400001n2.80001p2_80001h2W90001p2X9
  0001c2Y90001c2Z90001p1a90001n2b90001p1c90001f2d90001c2e90001g2f90q300001t2g90001j2h90001p2i90e10
  0001f2j90001h2k90001e2l90001r2m90t100X100j100001c2n90001l2o90I01o2p90001p1q90001t1r90001e2s90001
  e2t90001p2u90X300400001o2v90001s2w90001l2x90n400001e2y90800001c2z90001a2.90a400001a2_90c400g4000
  01d2WA0001e2XA0001p2YA0W400001j2ZA0001e2aA0d100001h2bA0w300e400P00f400n300F00001p1cA0x400001p1dA
  0001p2eA0001n2fA0t400d400001e2gA0001n2hA0_300600l400i100001p1iA0001p1jA0001e2kA0001c2lA0001c2mA0
  001e2nA0X400001e2oA0001s2pA0k400001e2qA0001e2rA0y400h400i400b100c100p100001p2sA0001l2tA0001e2uA0
  001e2vA0Z400001d2wA0x300001o2xA0001d2yA0001o2zA0001f2.A0o400B00Y400j400u300m400.200"

def typeScript : Packed := ⟨"typescript", typeScriptSymbols, typeScriptRoles, typeScriptTables⟩

end SymbolIndex.Grammar
