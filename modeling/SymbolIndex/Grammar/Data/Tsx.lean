import SymbolIndex.Grammar.Packed

/-!
# The grammar of TypeScript with markup in expressions

Its symbols, its roles and its packed tables.
-/
namespace SymbolIndex.Grammar

def tsxSymbols : List GrammarSymbol := [
  .hidden "end", .named "identifier", .named "hash_bang_line", .anonymous "export", .anonymous "*",
  .anonymous "default", .anonymous "type", .anonymous "import", .anonymous "=", .anonymous "as",
  .anonymous "namespace", .anonymous "\x7b", .anonymous ",", .anonymous "\x7d", .anonymous "typeof",
  .anonymous "from", .anonymous "with", .anonymous "assert", .anonymous "var", .anonymous "let",
  .anonymous "const", .anonymous "!", .anonymous "else", .anonymous "if", .anonymous "switch",
  .anonymous "for", .anonymous "(", .anonymous ";", .anonymous ")", .anonymous "await",
  .anonymous "in", .anonymous "of", .anonymous "while", .anonymous "do", .anonymous "try",
  .anonymous "break", .anonymous "continue", .anonymous "debugger", .anonymous "return",
  .anonymous "throw", .anonymous ":", .anonymous "case", .anonymous "catch", .anonymous "finally",
  .anonymous "yield", .anonymous "[", .anonymous "]", .named "html_character_reference",
  .anonymous ">", .named "identifier", .anonymous ".", .anonymous "</", .anonymous "/>",
  .anonymous "\"", .anonymous "'", .named "string_fragment", .named "string_fragment",
  .anonymous "class", .anonymous "async", .anonymous "function", .anonymous "=>", .anonymous "?.",
  .anonymous "new", .anonymous "using", .anonymous "+=", .anonymous "-=", .anonymous "*=",
  .anonymous "/=", .anonymous "%=", .anonymous "^=", .anonymous "&=", .anonymous "|=",
  .anonymous ">>=", .anonymous ">>>=", .anonymous "<<=", .anonymous "**=", .anonymous "&&=",
  .anonymous "||=", .anonymous "??=", .anonymous "...", .anonymous "&&", .anonymous "||",
  .anonymous ">>", .anonymous ">>>", .anonymous "<<", .anonymous "&", .anonymous "^",
  .anonymous "|", .anonymous "+", .anonymous "-", .anonymous "/", .anonymous "%", .anonymous "**",
  .anonymous "<", .anonymous "<=", .anonymous "==", .anonymous "===", .anonymous "!=",
  .anonymous "!==", .anonymous ">=", .anonymous "??", .anonymous "instanceof", .anonymous "~",
  .anonymous "void", .anonymous "delete", .anonymous "++", .anonymous "--",
  .named "string_fragment", .named "string_fragment", .named "escape_sequence", .named "comment",
  .anonymous "`", .anonymous "$\x7b", .anonymous "/", .named "regex_pattern", .named "regex_flags",
  .named "number", .named "private_property_identifier", .anonymous "target", .anonymous "meta",
  .named "this", .named "super", .named "true", .named "false", .named "null", .named "undefined",
  .anonymous "@", .anonymous "static", .anonymous "readonly", .anonymous "get", .anonymous "set",
  .anonymous "?", .anonymous "declare", .anonymous "public", .anonymous "private",
  .anonymous "protected", .anonymous "override", .anonymous "module", .anonymous "any",
  .anonymous "number", .anonymous "boolean", .anonymous "string", .anonymous "symbol",
  .anonymous "object", .anonymous "abstract", .anonymous "accessor", .anonymous "satisfies",
  .anonymous "require", .anonymous "extends", .anonymous "implements", .anonymous "global",
  .anonymous "interface", .anonymous "enum", .anonymous "-?:", .anonymous "+?:", .anonymous "?:",
  .anonymous "asserts", .anonymous "infer", .anonymous "is", .anonymous "keyof",
  .anonymous "unique symbol", .anonymous "unknown", .anonymous "never", .anonymous "\x7b|",
  .anonymous "|\x7d", .hidden "_automatic_semicolon", .named "string_fragment", .anonymous "?",
  .named "html_comment", .named "jsx_text", .hidden "_function_signature_automatic_semicolon",
  .hidden "__error_recovery", .named "program", .named "export_statement",
  .named "namespace_export", .named "export_clause", .named "export_specifier",
  .hidden "_module_export_name", .hidden "declaration", .named "import", .named "import_statement",
  .named "import_clause", .hidden "_from_clause", .named "namespace_import", .named "named_imports",
  .named "import_specifier", .named "import_attribute", .hidden "statement",
  .named "expression_statement", .named "variable_declaration", .named "lexical_declaration",
  .named "variable_declarator", .named "statement_block", .named "else_clause",
  .named "if_statement", .named "switch_statement", .named "for_statement",
  .named "for_in_statement", .hidden "_for_header", .named "while_statement", .named "do_statement",
  .named "try_statement", .named "with_statement", .named "break_statement",
  .named "continue_statement", .named "debugger_statement", .named "return_statement",
  .named "throw_statement", .named "empty_statement", .named "labeled_statement",
  .named "switch_body", .named "switch_case", .named "switch_default", .named "catch_clause",
  .named "finally_clause", .named "parenthesized_expression", .hidden "expression",
  .hidden "primary_expression", .named "yield_expression", .named "object", .named "object_pattern",
  .named "assignment_pattern", .named "object_assignment_pattern", .named "array",
  .named "array_pattern", .named "jsx_element", .named "jsx_expression",
  .named "jsx_opening_element", .named "nested_identifier", .named "jsx_namespace_name",
  .named "jsx_closing_element", .named "jsx_self_closing_element", .named "jsx_attribute",
  .named "string", .named "class", .named "class_declaration", .named "class_heritage",
  .named "function_expression", .named "function_declaration", .named "generator_function",
  .named "generator_function_declaration", .named "arrow_function", .hidden "_call_signature",
  .hidden "_formal_parameter", .named "optional_chain", .named "call_expression",
  .named "new_expression", .named "await_expression", .named "member_expression",
  .named "subscript_expression", .named "assignment_expression",
  .hidden "_augmented_assignment_lhs", .named "augmented_assignment_expression",
  .hidden "_initializer", .hidden "_destructuring_pattern", .named "spread_element",
  .named "ternary_expression", .named "binary_expression", .named "unary_expression",
  .named "update_expression", .named "sequence_expression", .named "string",
  .named "template_string", .named "template_substitution", .named "regex", .named "meta_property",
  .named "arguments", .named "decorator", .named "member_expression", .named "call_expression",
  .named "class_body", .named "formal_parameters", .named "class_static_block", .hidden "pattern",
  .named "rest_pattern", .named "method_definition", .named "pair", .named "pair_pattern",
  .hidden "_property_name", .named "computed_property_name", .named "public_field_definition",
  .hidden "_import_identifier", .named "non_null_expression", .named "method_signature",
  .named "abstract_method_signature", .named "function_signature",
  .named "parenthesized_expression", .named "as_expression", .named "satisfies_expression",
  .named "instantiation_expression", .named "import_require_clause", .named "extends_clause",
  .hidden "_extends_clause_single", .named "implements_clause", .named "ambient_declaration",
  .named "abstract_class_declaration", .named "module", .named "internal_module", .hidden "_module",
  .named "import_alias", .named "nested_type_identifier", .named "interface_declaration",
  .named "extends_type_clause", .named "enum_declaration", .named "enum_body",
  .named "enum_assignment", .named "type_alias_declaration", .named "accessibility_modifier",
  .named "override_modifier", .named "required_parameter", .named "optional_parameter",
  .hidden "_parameter_name", .named "omitting_type_annotation", .named "adding_type_annotation",
  .named "opting_type_annotation", .named "type_annotation", .named "member_expression",
  .named "call_expression", .named "asserts", .named "asserts_annotation", .hidden "type",
  .named "required_parameter", .named "optional_parameter", .named "optional_type",
  .named "rest_type", .hidden "_tuple_type_member", .named "constructor_type",
  .hidden "primary_type", .named "template_type", .named "template_literal_type",
  .named "infer_type", .named "conditional_type", .named "generic_type", .named "type_predicate",
  .named "type_predicate_annotation", .named "member_expression", .named "subscript_expression",
  .named "call_expression", .named "instantiation_expression", .named "type_query",
  .named "index_type_query", .named "lookup_type", .named "mapped_type_clause",
  .named "literal_type", .named "unary_expression", .named "existential_type",
  .named "flow_maybe_type", .named "parenthesized_type", .named "predefined_type",
  .named "type_arguments", .named "object_type", .named "call_signature",
  .named "property_signature", .named "type_parameters", .named "type_parameter",
  .named "default_type", .named "constraint", .named "construct_signature",
  .named "index_signature", .named "array_type", .named "tuple_type", .named "readonly_type",
  .named "union_type", .named "intersection_type", .named "function_type",
  .hidden "program_repeat1", .hidden "export_statement_repeat1", .hidden "export_clause_repeat1",
  .hidden "named_imports_repeat1", .hidden "variable_declaration_repeat1",
  .hidden "switch_body_repeat1", .hidden "object_repeat1", .hidden "object_pattern_repeat1",
  .hidden "array_repeat1", .hidden "array_pattern_repeat1", .hidden "jsx_element_repeat1",
  .hidden "_jsx_string_repeat1", .hidden "_jsx_string_repeat2",
  .hidden "sequence_expression_repeat1", .hidden "string_repeat1", .hidden "string_repeat2",
  .hidden "template_string_repeat1", .hidden "class_body_repeat1",
  .hidden "formal_parameters_repeat1", .hidden "_jsx_start_opening_element_repeat1",
  .hidden "extends_clause_repeat1", .hidden "implements_clause_repeat1",
  .hidden "extends_type_clause_repeat1", .hidden "enum_body_repeat1",
  .hidden "template_literal_type_repeat1", .hidden "object_type_repeat1",
  .hidden "type_parameters_repeat1", .hidden "tuple_type_repeat1", .named "property_identifier",
  .named "type_identifier", .named "statement_identifier", .named "shorthand_property_identifier",
  .named "shorthand_property_identifier_pattern", .named "this_type", .named "interface_body"]

def tsxRoles : List String := [
  "decorator", "parameters", "declaration", "name", "body", "argument", "operator", "pattern",
  "constructor", "arguments", "function", "type_arguments", "close_tag", "open_tag", "return_type",
  "type_parameters", "left", "right", "label", "parameter", "source", "object", "value", "type",
  "kind", "condition", "consequence", "handler", "finalizer", "property", "attribute", "constraint",
  "optional_chain", "key", "alternative", "index", "flags", "alias", "module", "initializer",
  "increment", "index_type", "sign"]

def tsxTables : String := "
  i51fCAc5d5e5f5o2k3p3g5h5i5C090123457891332344023420330382373135213235236nA0011001000011000121001
  300024113111fC002510600017000200170101410018101gC130002910A000250061001B1002C10D0002100E1002110F
  000200101101220112G00H201hC2420I00112420J0001K100241030020iC020jC0201002420L1002300M1102300N1001
  O0002P10Q2002420M1006420O11G11611H11M110200171003001701M1103001701N1002420P1002410R2002410S2020h
  C1I1020gC242031001M0002B11M11025016011gC01kC002L01T0102901A010242000102420F1004420111E11F1102920
  81002810B200171020gC13100131001U001gC2300M101gC2V1030020u7131002G00H2002420J0003G00610H2030gClC2
  42031002420310300fC2L00T2002L00T20300fC3L00W110T2003L00W110T2003920A00B1002920A0002C20D000442010
  1E01F0102L11T1102911A1103110E20F000222000101K2101M2001K203u70fC2L00T201jC2G00H2002X100M200542030
  0111E11F1101M1002300N2003300N10M210243032003Y130P10Q2006430O21G21621H21M2101N200200172003001701M
  2103001701N2004001701N10M2102410P3003410S30R200200131004300111E11F11010010101120gC243031020gC343
  0310F2002B10M0004B11B21M11M2103101E01F0102A11B1102Z111L111gC2300B1020gC020W5004910A00L01T0102300
  B1002430F102012430J1004430121E21F2102430J1004430111E11F1104310121E21F2105430310121E21F2103930810
  B202012G10H3002G10H3002a13071020gC2310M2020gC2V2031002U2131002U01U1102310B201gC3V10300M2020u7231
  0B2020u72U21310300gC243032020gC1N1001N1040gC0lC243031040gC0lC3430310F2002Z120L0003930A00B2002230
  001300gC34300013200243000103430001F2001K3102b12030020gC2310M30112b12030005430300121E21F210200173
  004001701N20M310132002310M2103001310N2002300M2104300121E21F210200132003001310M2120gC3440310F2004
  B01B11M01M110111002A00B1004A00L01T01B1004910A00Z101L0104A00Z101L01B10300gC2c100320300fC4901A01L0
  0T2004L00L01T01T2002100E20300fC4L00L01T01T2004901A01L00T2004440131E31F3104320131E31F310544032013
  1E31F3120gC3V20310M3003U31310B2020u73U31310B20300gC2440320300gC3440320F3020gC2N10N2102N10N2150gC
  00lC3440310F2003Y140P00Q2003Z130L00W110112300N2002001M30300gC3440001320300gC4440001320F300344000
  1F204000gC344000133002b13031020gC3310F20M402012b13031005440310131E31F31014202013G10620H3003G1062
  0H3003450P30d1200200174004310131E31F311gC2300N2001N3002320M3102320N3002310M3102310N3003310N20M31
  0200133003300N20M3103001320M3103001320N3003001310M3103001310N3004001310N20M3102110N2002120F10023
  10N200112004Z101L00L01T20300fC4Z101L00L01T2002110N3003110E30F0005450330141E41F41300gC3450320F300
  2N01N11023103210230131101321300gC4450001320F304000gC34500013304000gC4450001330F4001K400545032014
  1E41F4102430M1004O10G20630H4004460P30e140d12004460P30P40d12003460P40d12002440J2004320141E41F4104
  330141E41F4102320M4102320N4003320N30M4103310N30M410133003001330M4102330N4001N400200134003001330N
  4003001320M4103001320N4004001320N30M4104001310N30M4103120N30F1002120N3002130F2004Z101Z120L00L010
  4Z120L00L01T0104901A01Z120L0003120N40F1002120N404000fC04000gC4460001330F4005460330151E51F5105460
  340151E51F5105O10G20640H50M3105470P30P40e150d12004470P40e150d12004470P40P50d12003450J20N302013f1
  30310N501gC3b140300N2003f130310N5002g100N5004330151E51F5104340151E51F5103320N40M5102330M5102330N
  5003330N40M5102340M5103001340M5103001340N500200135003001330M5103001330N5004001330N40M5104001320N
  40M5103130N40F200134004Z130L00L01T0104Z101Z130L00L0104901A01Z130L0003130N50F2005470340161E61F610
  5470350161E61F6105480P40P50e160d12004340161E61F6104350161E61F6103330N50M6130013f140320N6003f1403
  20N6002340M6103001340N6004001340N50M6103001350M6103001350N6004001330N50M6103001340M6102001360023
  40N5004Y160Q40G00H2005480350171E71F7105480360171E71F71400014f150330g100N7004f150330g100N70043501
  71E71F7104001340N60M7103001350M7103001350N7004001350N60M7104360171E71F7103001360M7103001360N7002
  340N6005490360181E81F8104001350N70M8104360181E81F8103001360M8103001360N8004001360N70M8104001360N
  80M91eq4111012v6101112x7101010fq30112v6100112v6101010bY30012v6100010Yo10010gc10112s8107112x71001
  12X830Y2010xu20010qh10010__10010xd10010eg10010bg10010hG0110wu30010kf10010lg10010re10010ng10010pC
  0012X830Y2010bc10012W6300012q9100010dv20010qE0012p9100010vd10110wj40012g9105110io10110uh40110vh4
  0112r720E112x6200112mA40b8112mA50d9010ep30010Xh40010ib30110nD0010yb10112_6200110ws30110.j40110j6
  0012W6200110Yo10110Wi40110Xi40112pA20k3110Wi30112g9105010uo50112lA30f5112lA30z6112mA40c8112mA40d
  8112mA50e9112mA50f9010mp50112u730b2112u730c2112W6300112dA100012c670k8012W6400110o80110sF0010bX30
  112u6100112c8200110gb50110fB0110_g50110zD0110cU0110qE0112tA10l1110XE0112dA10m1110sC0110pC0110ve4
  0110we40010wk40112W6200010xe10012k8200012k830e3112dA10n1110hG0112y930f5112y930g5110W70110.g40110
  _g40010uH0112lA30g5112lA30i5112lA30j5112lA30.6010pe10112z920p3012x6200012r720E010iJ0110.p30110fW
  20110i60112.9200112WA100012u730b2012u730c2112i930e5110fj10112Z8208110__10110t60010mI0112yA100110
  ah30012o5100112iB30h5112iB40W7012j550p4012_6200012z840w3012z850l5110xu20112x630R110jD0112Y820801
  0Yh50010aK0010mc10010zj10010yt10110XX10110YX10010fa10010cv20010mf50012b8200012b8300010eJ0010eK00
  12a730b2012a730q2012t6300012t640.2010db30010YE0012f9206012g920Q010gE0014110cE0112t7200112b820011
  2b8300010XE0112W6400010iE0110sf10110iE0110bv20010ge10112w6100112q9100010r50010iG0010jG0110jp5011
  0k60112p9100110c30110dv20110mv30110pN0012pA20k3012h8200010_v10010Wq50112g8200112g8300112g8400112
  k8200112k830e3112.A200010ev20012u6100112a730b2112a730q2112u870q9110j80112g740m4112g750z5112g750.
  5112g760d7112u860y7112u870v9112u880YA012h730i1012h740f3012h740g3012h740m4012h750X5012h750z5012h7
  50.5012h760d7012k740x3012k750m5012m750m5012m760X7010qa30010si30010ye40112g730i1112g730q1112g740f
  3112g740g3112g750X5112j740x3112j750m5112l750m5112l760X7010sf10010j50010rE0010zE0012j540n2012j550
  y5012q540n2012q550p4012q550n2012q560p4012m940a7110jj50112_8300112oA20a5010dh30010k50010hY30010qC
  0010rC0012mA40b8012mA50d9110_60112f9206112g920Q112uA208010WW20112e830v1010mg10112nA20E110mF0112.
  A300112.A400112.A500112.A600010au20112eB200010Wh50010Xh50110nf50112fA200010Zg50010oj50010oq50012
  c8200110cj10110o60110mW50110.g50112WA10o1012Y8208012Z8208012kB20K110mA0112t6300112t640.2110ej101
  12zA300112zA400112zA500012w6100110gq30112u850o6112u860X9112u860Y9112u870u9012g8200012g8300012g84
  00112y930i5112y930j5112WA10p1112gB200112gB300110tD0112X920G112nA20p3112nA20c5112yA20o3010hU0012t
  7200112gA20n3110zC0112iA20m3112iA20q3112cA40_6112cA50e8112cA50f8112cA60g9112fA300112oA20b5112oA2
  0d5112pA20l3112pA20j2112rA400112vA100112xA300112dB300112eB300112eB400112eB500112hB200112hB300110
  dH0112n730O112n730X2112n730i2112n740s3112n740u3112n740v3112pA20k2012.A200010pZ10010xL0012x630R01
  2.A300012.A400012.A500012.A600112gA40n3112hA70y9112jA30x5112jA30v2112qA200112fB200010mf40010fU00
  10g30010vt10012lA30f5012lA30z6012mA40c8012mA40d8012mA50e9012mA50f9110gK0110uH0110dU0110eU0110gU0
  112_6300010ac10110kJ0012e830v1110hE0110iJ0012dA100110nN0010_n10110YE0110hA0112wA200010b50010Zh30
  010ni30010cE0010of50010pf50010qf50110YF0110hK0110mI0010zk10010Zx10010dE0110lB0110eE0112c670k8112
  u870W9112u880aA010fE0112u730d2112u730e2112v740j4112v750w5112w8200010eu20010o90010V0010gA0010fj40
  010gj40010y_40010._40010__40110aE0010uf20010ne30110bE0112u880ZA112u890hA110jE0110ZF0010po20010_C
  0110wF0110_H0110lJ0012i830b2110aK0112u850y7010dD0010eH0110.E0110ZH0112X720H112X730h2112c7200112c
  730x1112c730_1112d7210112d731x1112d731_1112d741Y4112d741a4112d741c4112d741d4112d751o5112d751p501
  2j820E012j830f2012.8300012kB102110nG0110tI0110eJ0110pJ0110eK0010.d10010lH0110ZD0112j550p4112o510
  0112n8111112u860_8112z840w3112z850l5010Wi30110ZU0110aU0010zC0012g730i1012g740f3012g740g3012g740m
  4012g750X5012g750z5012g750.5012g760d7012j740x3012j750m5012l750m5012l760X7110hH0112g740n4112g740o
  4112g750_5112u860.8112u870r9010lf20010fD0010dH0012r620B012r650n7012r660o8110qz20110fD0112x630011
  2x6400112x640R010pc10010gN0012j5204012j5300012j530L012j530m2012j5400012j540l4012j540o2012q530001
  2q530P012q5400012q540P012q540p2012q5500012q550p2012x5100012y5200012z5300012z5400012.530X1012.540
  X1012X6200012Y640y2012Z630Z1012a660e6012a670k7012a670l7012a670m7012a680l8012a680m8012a680n8012a6
  90j9012b630a1012b640z2012d630e1012e640Z3012e650Z3012f620B012f630f1012f630g1012f640a3012g630U012h
  6200012h630h1012i6200012i630h1012j6200012k6200012k6300012l6300012m6100012n631N012o6200012o630001
  2s620B022v61002tA10l1012h740i1012h750f3012h750g3012h750m4012h760X5012h760z5012h760.5012h770d7012
  k750x3012k760m5012m760m5012m770X7012c9200012c9300012c970g8012d940e4012d950q5012d950r5012d950W601
  2d960Y7012d960e7012d960f7012d970h8012e9206012h9500012j930Z2012j940h4012j940i4012j950u5012l930a20
  12l940x2012m9200012m9300012m930x1012m9400012m940c7012m950a7012m950c7012o950r4012o960Y6012WA10001
  0ie10010w40010cf40010nH0012Y630Y1110nH0112_6400112g720B112g730r1112g740r3112j730s1112j740t3112l7
  40t3112l750k5112r730f2112r730g2112r740k4112s730t1112s740y3112Z820F112c8300112e840_3112f8300112W9
  300010aF0012c650c6012c650d6012c660j7012i930e5012lA30g5012lA30i5012lA30j5012lA30.6012tA10l1112s73
  0u1010Zi10012y930f5012y930g5012z920p3012dA10n1112u840o6010hF0012.9200110dl50010Zf10010Yb20010tF0
  110dF0012dA10m1110rj10122v61012n8111010YF0010xF0010WI0012g730q1012X920G010oY10012iB30h5012iB40W7
  112u850v7112u850z7112u860Z9010jF0010YG0010pG0010dI0010uI0010qJ0012.B30d3110kY10110lY10110nY10110
  jF0112s720C010bs50010fs50010m80010rX30010wG0010_I0010xJ0012_8300110wC0110.F0110ZI0011110nU0112n8
  110010wF0010_H0110sG0110xI0110tJ0010wh50012u730d2012u730e2012v740j4012v750w5012s8107012w8200110o
  U0110pU0122s81070rj10122s81070W10010pa30010oi30010aG0010up50010eq50010fr50010rr50010fI0010pJ0110
  k80110aG0110fI0110XU0112j540n2112j550y5112h730i1112h740f3112h740g3112h740m4112h750X5112h750z5112
  h750.5112h760d7112m940a7010wZ10010hb10010o50010nG0010vH0010wH0010tI0010.L0010oM0022v61010wj40110
  jA0110sp50122v61010k60010n30010Xd10010d40010m50010nl20010ej40010w_40010x_40010z_40010yG0010rj500
  10XJ0010jJ0010zJ0010iK0110b9011040110yG0110jq50110XJ0110zJ0112k740x3112k750m5112m750m5112m760X71
  12h8200112u840_4112u850.7112u850_7112u860a9010yd10010Z40010hg10010jl20022v61002dA10m1022v61012yA
  100012uA208110oA0010fb10010gg10010gj30012yA100110gj30110WB0110ZE0010mY10010q50010kD0010aj40010nI
  0010oI0110I0110.p50112u860W9112u870t9010se10010lf10010cg10010fg10010og10012_6300110si10110xj5011
  0km50010m30010tZ10010uZ10010vZ10010yc10010ud10010qp50010vK0010bL0010zL0110eD0122v61002tA10l1010n
  Z10010sm20010pX30010yp50010aq50010vL0022v61012s8107110vC0110mH0110pn50122v61012s8107112w730W2112
  u870s9112u880bA010ra10010sb10010n50010nb30010qp30010bK0010cK0010dM0010.M0110_C0110cr50112w730M01
  0Xa10010ub10010h40010n40010tk10010l50010p50010zi20010fJ0010gJ0010fK0010kK0010YM0010mM0010WN0110X
  g10110eH0110cq50110or50112q540n2112q550p4112q550n2112q560p4112x920j2112kB20K010t30010qf10010Xg10
  010ug10010p40010Y50010.e20010tm20010ZD0110n60010ye10010wg10010f50010hH0112w6200112w6300112w740z3
  112w740.3112y730Y2112W850v5112o820T112t930_2112t940u4010_d10010lj10010lw10010_X20010WY20010ZY300
  10fp30010uC0110hr20110iF011050112o8200010yV0010gY30010aD0010fl50012nA20E012zA300012zA400012zA500
  110gj10010d30010cc10010wt10010Zi30010iH0012WA10o1012WA10p1012fA200012iA20m3012iA20q3012nA20p3012
  nA20c5012oA20a5012pA20k2012eB200110uV0110vV0110xV0110j30110Xr20110fY30110hY30110bD0110od40110ei4
  0110fi40110aF0110gO0110Z30010zg20010cD0010el50010vr50012X720H012X730h2012c7200012c730x1012c730_1
  012d7210012d731x1012d731_1012d741Y4012d741a4012d741c4012d741d4012d751o5012d751p5012y930i5012y930
  j5012cA40_6012cA50e8012cA50f8012cA60g9012fA300012gA20n3012oA20b5012oA20d5012qA200012rA400012vA10
  0012xA300012yA20o3012dB300012eB300012eB400012eB500012hB200012hB300110T0110uz20110yz20110ZG0110jH
  0110eI0010wV0010mZ10010c50010ti40010dF0010vF0010kH0010uL0012pA20l3012pA20j2110XC0110XD0110xG0110
  WJ0110yJ0010do20010ez20010iY30010_g50022v61002dA10n1022v61010hG0012x6300012x6400012x640R012_6400
  012g720B012g730r1012g740r3012g740n4012g740o4012g750_5012j730s1012j740t3012l740t3012l750k5012n730
  O012n730X2012n730i2012n740s3012n740u3012n740v3012r730f2012r730g2012r740k4012s730t1012s730u1012s7
  40y3012Z820F012c8300012e840_3012f8300012gB200012gB300110W_10110Xt30110YD0110xF0110fH0110WI0012m8
  20B012p8A0gA012p830t2012p840x3012p840t4012p850m5012p850a6012p860X7012p860h7012p870i8012p870j8012
  p880h9012p880i9012p890z9012p890.9012.B100012.B200012.B20d3110cB0110.C0110gD0110pG0110gH0110uI011
  0qJ0112i830b2010d50010g50010oX30010qX30010Wb30010eF0010.F0010ZI0022x62002.A200012y6200022_62002e
  B200012s720C012n8111110yi10110Yj10110p80110oH0110xH011070110YU0010e50010h50010i50010iv30010tc400
  10sf40010sG0010xI0010tJ0012gA40n3012hA70y9012jA30x5012jA30v2012wA200012fB200110fF0122v61002n8110
  112y6200112W7200122g720B2g730q1122g730i12g740m4122g730q12g740n4122g730r12g740o4122g740f32g750z51
  22g740g32g750.5122g740r32g750_5122g750X52g760d7112j820E112j830f2010wE0010gF0010oi50012W9300110br
  10110wr10110wv10110X70112j5204112j5300112j530L112j530m2112j5400112j540l4112j540o2112z5300112z540
  0112.530X1112.540X1112k750x3112k760m5112m760m5112m770X7112.8300112c9200112c9300112c970g8112d940e
  4112d950q5112d950r5112d950W6112d960Y7112d960e7112d960f7112d970h8112e9206112h9500112j930Z2112j940
  h4112j940i4112j950u5112l930a2112l940x2112m9200112m9300112m930x1112m9400112m940c7112m950a7112m950
  c7112o950r4112o960Y6112kB102112.B30d3010_E0010_F0010aI0110bF0122v61002dA10m1122v61012yA100112u83
  0_4112u840q6112u840r6112u850W8010ff20010.D0010tG0010yI0010uJ0012W7200022c82002fA200110zV0110eY10
  110rv10110cf20110os20110gy20110em40110cF0110WG0110kZ50110Yh50110bI0122v61010sF0112y630S010jV0010
  hW10010dc10010bf10010tf10010vf10010xf10010Wg10010Yg10010yg10010Xh10010oh10010rh10010th10010vh100
  10xh10010_h10010Xi10010Xi30010bi30010WE0010XG0010zj50010mm50010cI0110fV0110gV0110iV0110dW10110eW
  10110gW10110h30110k30110Wg10110Yg10110xk10110zk10110Xx10110Zx10110M0110_70110Zh30110ni30110qi301
  10mB0110uc40110td40110kF0110YW50110uG0110of50110pf50110qf50110vf50110wf50110zI0110vJ0110jK0110fO
  0110hO0112Y630Y1112t8300010uW10010eX10010ua10010fd10010Zg10010ag10010rg10010yk10010Yx10010n80010
  me30010di30010ki30010vG0010rn50010.I0010wJ0110qW10110rW10110tW10110aX10110bX10110dX10110wX10110l
  30110sY10110Zg10110ag10110Yb20110le30110ne30110ai30110vd40110qg40110ii40110ji40110yF0110XI011060
  110iO0112p5100112m6100122v61002dA10n1132s81072pB20R2qB20S112t920b1010hV0010fW10010.j10010.k10010
  zt10010ax10010ni40010vi40010yj50010lm50010wq50010zr50022n81110tF0110zF0110qG0110YI0110vI0110rJ01
  12q5300112q530P112q5400112q540P112q540p2112q5500112q550p2112x5100112y5200112X6200112Y640y2112Z63
  0Z1112a660e6112a670k7112a670l7112a670m7112a680l8112a680m8112a680n8112a690j9112b630a1112b640z2112
  d630e1112e650Z3112f620B112f630f1112f630g1112f640a3112g630U112h6200112h630h1112i6200112i630h1112j
  6200112k6200112k6300112l6300112n631N112o6200112o6300112r620B112r650n7112r660o8112s620B112h740i11
  12h750f3112h750g3112h750m4112h760X5112h760z5112h760.5112h770d7112x920k2010sW10010cX10010Wa10010Z
  a10010aa10010w30010td10010we10010.60010ZW30010xi40010zi40010t_40010df50010ef50010lf50010qn50010x
  q50010_r50010as50010xK0010fL0010aM0022n81110.D0110xX10110wY10110Z50110bG0110oG0110rG0110gI0110pI
  0110wI0110sJ0112_5105112e640Z3122v61012o820T112y6300112y6400112y640S112W7300112W7400122c82002fA2
  00112l8200112l8300112l8400112l8500112wB200010zZ10010.Z10010_Z10010s30010md10010oe10010g80010bv20
  010mX30010oe30010h_40010ie50010je50010ke50010cg50010yH0010wK0010eL0010XM0022v61000eY10110_X30110
  XB0110hD0110kE0110lF0110fX50110cG0110zG0110.G0110pH0110hI0110YJ0110ZJ0110hJ0110.J0110_J0110dK011
  0lK0112c650c6112c650d6112c660j7122v61000zh50010nd20010eo20010eq20010xb30010de30010he30010je30010
  ke30010Xg30010Wj30010uj30010sq30010wj40010uE0010np50010dU0010eU0010gU0022jB2000vd11110j70110np20
  110Wr20110ns20110qc30110ri30110Xq30110rq30110if40110jf40110lS0112p8A0gA112p830t2112p840x3112p840
  t4112p850m5112p850a6112p860X7112p860h7112p870i8112p870j8112p880h9112p880i9112p890z9112p890.9112x
  820c3112x830w3112x830.4112x840l5112x840g6112x850o7112x850p7112x860t8112x860u8112x870k9112x870l91
  12x880XA112x880cA112x890iA112pB20R122pB20R2qB20S010b30010eY10010zb10010os10022g720B2g730q1022g73
  0i12g740m4022g730q12g740n4022g730r12g740o4022g740f32g750z5022g740g32g750.5022g740r32g750_5022g75
  0X52g760d7022.B20K0bY31110li10110gg50110hg50110gL0122x62002.A200122_62002eB200112o7103112o720I11
  2o720J112o730l2112_9200112kA200010qg10010m.10010_.10010ub20010cc20010wf20010dp20010sX30110ZX1011
  0mW20110f80110S0110yA0110uW5011080122v61010jD0112u8A0mA112u820b3112u830x4112u880w9112u890jA112u8
  90kA010kV0010.V0010iW10010gg20010e90010jA0010XU0110vW10110fX10110rZ10110O0110rB0110xB0110dC0110j
  C0110rc40110qj40110Z20112z720u2112m820B112.B200010WZ10010nb10010g40010pr10010qr10010.v10010Z6001
  0vW20010ga20010bb20010qp20010Zr20010bh30010Y30022v61010uA0022v61010uo50012n8110110qY10110tY10110
  a50110Y80110zp20110Yr20110W10110vc30110iA0110lA0110vA0110ii30110cp30110dp30110br30110xs30110qv30
  110rD0110Wk40110m10110kW50110Yf50110vo50110wo50110xo50110kq50110Ws50110e20110lU0112t9109112WB105
  112WB205112WB20x1112WB30w4112WB30x1112WB40w4112WB40u7112WB50u7112WB50c9112WB60c9112.B100112.B20d
  3010lV0010jW10010i30010qZ10010uc10010Wc20010c80010yC0010fg50010lL0010yL0022v61010Xr20012y630S022
  n81100WE0110wW10110gX10110uY10110vY10110Z80110uj50110vj50110yU0110zU0110.U0122v61002o8200112q710
  0122s81070br10122s81070wr10122s81070gu10122s81070wv10122s81070ug20112u830w4112u840w4010yZ10010q3
  0010ne10010bu10010hZ20010tf20010xf20010yf20010zf20010_f20010qo20010uA0010bq30010eq30010Zk40010vE
  0010.H0010WM0022v61010Wi30022n81110yH0012t9109012t930_2012t940u4110gY10110_i10110aj10110X50110.n
  20110q80110_80110ky20110qy20110vz20110va30110wA0110aj30110er30110mr30110pr30110qr30110sr30110zr3
  0110_r30110Zs30110as30110es30110ys30110zs30110Zt30110gt30110kt30110lt30110gu30110lu30110mu30110n
  u30110YC0110Yg40110sU0122v61010j60122v61010X70122v61010ws30122x62002y6200122x630R2y630S122_62002
  W7200112Y7200112Y7300112b7300112v8101112t950f6112rB200010tX10010cY10010zY10010p30010Yc10010nw100
  10c90010dj30010kj40010kG0010aH0010nq50010qI0010mJ0110.V0110jY10110gu10110_50110K0110kg20110.j201
  10X80110vs20110s80110zi30110Yq30110lE0110ty40110i_40110j_40110Xa50110W20112.630r2112a8200112XB30
  0112XB400112XB500112cC200010va10010ab10010eb10010ob10010tb10010hc10010Wd10010nd10010ee10010he100
  10ke10010ue10010ve10010Wf10010gf10010nf10010of10010zf10010vg10010o40010ik10010ip10010Yu10010Zw10
  010la20010yb20010ac20010Yg20010.g20010uj20010co20010to20010Xj30010Zv30010hj40010ak40010ck40010XF
  0010mG0010uf50010cH0010Xq50010sI0010oJ0010WL0010_M0010cN0022v61000vA0012t920b1110_g10110ah10110d
  h10110gh10110jh10110mh10110kk10110hm10110ry10110t80110_z20110Y.20110gZ30110bd30110lf30110yq30110
  fr30110hr30110wr30110ts30110eu30110_Z40110yD0110ij40110jj40110jg50110xg50110zh50110iL0110lP0110i
  U0112_520V112u8205112u830b3112u830y4112u840s6112u840t6112u850u7112u850X8112u860z8112u870w9112u88
  0dA112u880eA112u890lA112v8100122pB1002qB100010nk10010mw1001020010u60010h80010yi30010ag50010pj500
  10pq50022n81100vF0022jB2000__11022jB2000pC1110ui10110YW20110y60110bq20110br20110jr20110tr20110us
  20110ws20110bh30110pu30110.u30110fx30110ig40110mh40110nh40132v61002n81102dA10m1122v61002t9109132
  x62002y62002.A200132_62002W72002eB200112_7200112s8100112u9200112v9200112w9200112_A10j3112WB20W11
  12WB30x6112WB30v2112WB40k6112WB40m6112WB50r7112WB50w7112WB60x8112WB60x9112WB70fA112bB20Z5112bB30
  v6112bB30w6112bB30y6112bB40Y8112bB40Z8112bB40a8112bB50b9112cB40i6112cB50x7112cB60p8112cB60r8112c
  B60s8112cB70n9112cB70o9112cB80_9112cB80WA112nB200112sB200112YC200010wa10010xi10010dr10010gs10010
  hs10010pt10010ou10010e.10010rW20010yX20010WZ20010aZ20010gZ20010ha20010ra20010dc20010Xg20010ag200
  10_g20010yo20010lr20010d90010gz20010XY30010ch30010pD0010mE0010nF0010dG0010_G0010tg50010qH0010iI0
  010aJ0010WK0010nL0010qM0022X830Y20Y50022X830Y20b50022X830Y20c50022X830Y20d50022X830Y20e50022X830
  Y20f50022X830Y20g50022X830Y20h50022X830Y20i50022n81100.H0012o820T110iY10110hj10110Wn10110v50110h
  z10110m.10110ub20110Y70110ar20110cs20110r80110ps20110wy20110Z.20110a.20110._20110nZ30110jc30110k
  A0110tf30110ci30110ei30110kj30110yj30110Wk30110eB0110aq30110nq30110sB0110.r30110Ws30110ds30110hs
  30110yB0110us30110mt30110ou30110Xv30110sv30110iw30110kw30110lw30110eC0110mw30110ix30110jx30110kC
  0110WD0110ra40110oD0110pf40110f.40110hY50110od50110xf50110yf50110X20110jL0110tO0110cP0110dP0110n
  P0110kQ0110hT0110jU0110_U0112s520P112Z7210112Z731x1112Z731_1112Z741Y4112Z741a4112Z741c4112Z741d4
  112Z751o5112Z751p5112e7100112e7107112e7300112e7307112f7200112f7300112d8300112r830s2112Y960g7112Y
  B10D122rB1002sB100112WC10y1112ZC20g4010_Y10010dZ10010eZ10010fZ10010ba10010ca10010da10010r30010ta
  10010fc10010y30010af10010wi10010eq10010jq10010as10010bs10010ow10010jx10010kx10010y.10010bZ20010x
  Z20010Xc20010ec20010pd20010ef20010qf20010sg20010dk20010ql20010fm20010hm20010jm20010lm20010om2001
  0wn20010_n20010go20010io20010cr20010gu20010jx20010hy20010iy20010dz20010hz20010lz2001030010e.2001
  0gX30010Xb30010ah30010bj30010cj30010sp30010tC0010iD0010lD0010qD0010df40010nE0010oF0010eG0010WH00
  10rH0010jI0010bJ0010XK0010mK0010pK0010sK0010yK0010_K0010mL0010oL0010rL0010bM0010t20010tU0022v610
  02s8107032v61012s81070wj40012o8200022.B20K0_v11110mV0110_V0110hX10110pX10110rX10110yX10110.g1011
  0Wh10110Zh10110bh10110ch10110eh10110fh10110hh10110ih10110kh10110lh10110nh10110oi10110uj10110ro10
  110xo10110mq10110nt10110pw10110uW20110WX20110lY20110Yk20110ir20110vr20110js20110qs20110v.20110nY
  30110z90110_Z30110ob30110zb30110pA0110vh30110.h30110jk30110hl30110mn30110tp30110nZ40110tb40110_b
  40110bc40110jc40110WE0110ri40110vF0110.W50110gY50110qo50110ro50110sq50110Xs50110Y20110sM0110cN01
  10zP0110.P0110_P0110WQ0110qQ0110rQ0110tQ0110uQ0110vQ0110wQ0110YR0110eR0110gR0110hR0110nR0110oR01
  10uR0110yR0110z20110lT0110nT0110qT0110tT0110wT0110qU0112l5200112l5300112l5400112l5500112_520W111
  2_530v2112_530w2122v61002s8107132v61012s81070k60112z630W2112.630W2112u8105112u820V112u820W1112u8
  30z4112u830W5112u830v2112u830w2112u840j6112u840k6112u840l6112u840m6112u840n6112u840p6112u840u611
  2u850q7112u850r7112u850s7112u850t7112u850w7112u860v8112u860w8112u860x8112u860y8112u870m9112u870p
  9112y830w3112y840l5112y840g6112y850o7112y850p7112y860t8112y860u8112y870k9112a910j1112a920h3112eA
  300112aB200112lB200112mB200112pB200112qB200112rB100122zB1002bC100112_B200112XC20k1122cC2000mi111
  12dC200112eC200010f30010xY10010yY10010.Y10010ZZ10010xZ10010Ya10010sa10010.a10010bb10010cb10010gb
  10010ib10010jb10010vb10010v30010te10010jf10010b40010pf10010dg10010ig10010e40010xg10010i40010vi10
  010.i10010jj10010kj10010mj10010qj10010xj10010yj10010Yk10010ak10010q40010Xo10010jp10010mr10010tr1
  0010ur10010fs10010is10010js10010ut10010Zu10010du10010qu10010s50010aw10010y50010vw10010ww10010xw1
  0010ZW20010sX20010zX20010eY20010XZ20010sZ20010yZ20010zZ20010ca20010db20010zb20010bc20010sd20010d
  f20010jf20010kf20010vf20010.f20010Wg20010Zg20010bg20010dg20010fg20010mg20010pg20010rg20010Wh2001
  0t70010ij20010jj20010vj20010wj20010w70010pl20010ul20010wl20010wm20010ho20010lo20010ro20010uo2001
  0vo20010xo20010zo20010.o20010_o20010Wp20010Xp20010Yp20010Zp20010ap20010bp20010ep20010fp20010gp20
  010hp20010ip20010jp20010kp20010lp20010mp20010kr20010bu20010cu20010hu20010oy20010py20010iz20010jz
  20010mz20010nz20010oz20010eW30010jX30010oa30010ab30010qb30010rb30010Wg30010Yg30010xh30010yh30010
  ii30010ji30010li30010so30010cp30010gp30010yp30010ey30010tz30010ue40010sD0010ri40010bk40010Xl4001
  0al40010oE0010xE0010yE0010qF0010YX50010uY50010fG0010yZ50010XH0010kh50010oh50010dl50010sH0010vo50
  010wo50010vp50010fq50010kq50010gr50010sr50010kI0010cJ0010YK0010YL0010aL0010cL0010dL0010qL0010tL0
  010_L0010ZM0010eM0010gM0010nM0010pM0010rM0010XN0010w20010x20010jU0012p630u2012p640i7012q6200012q
  630b6012Y7200012Y7300012b7300012k920g4012t950f6012x920j2012jB200022.B20K0ff21012ZC20g4110nV0110W
  W10110iX10110qX10110sX10110zX10110ia10110ja10110ka10110oa10110Wb10110C0110We10110Ze10110ae10110c
  e10110de10110fe10110ni10110pi10110qi10110ri10110ij10110wj10110rk10110Zl10110ql10110yl10110wm1011
  0kn10110oo10110po10110ip10110gr10110xr10110ju10110uv10110Zw10110fx10110zx10110by10110qy10110az10
  110vz10110w.10110kW20110nW20110eb20110Z70110qg20110a80110rp20110_p20110.q20110mr20110ur20110es20
  110ls20110rs20110xs20110Xt20110Yt20110Yv20110wv20110Zw20110hw20110iw20110ly20110my20110ry20110sy
  20110ty20110uy20110vy20110xy20110yy20110zy20110.y20110_y20110Wz20110Xz20110Yz20110Zz20110az20110
  bz20110cz20110b.20110c.20110x.20110y.20110t90110kX30110WY30110w90110y90110.Y30110ZZ30110hZ30110r
  Z30110_90110XA0110ja30110la30110na30110sa30110ZA0110bA0110wb30110dA0110rc30110sc30110tc30110fA01
  10wc30110xc30110yc30110zc30110.c30110_c30110Wd30110Xd30110Yd30110Zd30110ad30110cd30110dd30110ed3
  0110fd30110gd30110hd30110id30110jd30110kd30110ld30110md30110nd30110od30110pd30110qd30110rd30110s
  d30110td30110ud30110vd30110wd30110xd30110yd30110zd30110.d30110_d30110We30110Xe30110Ye30110Ze3011
  0ae30110se30110Yf30110df30110kf30110mf30110xf30110qA0110tA0110eh30110uA0110Yi30110xA0110_i30110z
  A0110.A0110_A0110om30110ln30110bo30110io30110ko30110dq30110Wr30110lr30110ls30110rs30110ss30110c1
  0110vs30110.s30110qu30110Yv30110gv30110nw30110ow30110sw30110f10110lZ40110oZ40110pZ40110.Z40110Ya
  40110Za40110ba40110ca40110da40110ia40110ma40110qa40110sa40110ta40110ua40110va40110bb40110cb40110
  db40110mb40110nb40110sc40110Wd40110nd40110sd40110Xf40110Yf40110i10110Wg40110gg40110hg40110bh4011
  0ch40110oh40110ph40110wh40110xh40110Yi40110Zi40110gi40110hi40110ki40110li40110j10110kj40110Yl401
  10kl40110vl40110fm40110gm40110Yn40110l10110sE0110pF0110my40110ry40110..40110k_40110q_40110iY5011
  0lZ50110mZ50110Yb50110eb50110dc50110oc50110jd50110kd50110.d50110Ze50110ae50110ce50110s10110kg501
  10eh50110fh50110ph50110sh50110Zi50110ck50110kl50110rm50110vn50110v10110so50110tq50110uq50110y101
  10z10110_10110hL0110kL0110dO0110nO0110oO0110pO0110qO0110l20110vO0110xO0110yO0110.O0110_O0110aP01
  10bP0110kP0110mP0110o20110qP0110rP0110sP0110p20110eQ0110fQ0110iQ0110jQ0110r20110pQ0110aR0110vR01
  10oS0110pS0110qS0110vS0110wS0110aT0110dT0110gT0110mU0110rU0110uU0112i5100112m5105112m520x1112m53
  0q4112m540X6112r5100112v5105112v520x1112v530q4112v530s4112v540X6112v540Z6112w5200122_51050fZ5013
  2v61002dA10m12o8200132v61002tA10l12o8200132v61012yA1002o820T122.630r22w730M122a730b22i930e5122a7
  30q22i930e5112i7100112q830s2112Z920k1112Z930i3112k920g4112n920V112r910A112r920c1112r920d1112r930
  Y3112s920A112s930W3112s930X3112s940v4112XA20W1112YA30v2112ZA200112aA200112bA100122YB10D0qv30112Y
  B20w1112YB20z1112YB20.1112YB30W4112YB30X4112YB30b4112YB40n5112ZB200112jB200122jB2000pC1122jB2000
  sC1122kB20K0wu31112pB100112qB100112qB20S112sB100122tB2000va31122xB2000if41122yB2000jf41122zB2000
  nq31122.B20K0gy21122.B20K0.g51112WC20Z4112XC20Y5112ZC20f4112aC200112aC20x1010uV0010vV0010xV0010e
  30010gY10010kY10010lY10010nY10010XZ10010YZ10010aZ10010bZ10010cZ10010gZ10010hZ10010iZ10010jZ10010
  kZ10010lZ10010oZ10010o30010ea10010la10010pa10010qa10010xa10010ya10010za10010_a10010Yb10010Zb1001
  0db10010u30010mb10010pb10010qb10010rb10010wb10010xb10010.b10010Wc10010Xc10010ec10010ic10010jc100
  10x30010kc10010lc10010nc10010oc10010qc10010rc10010sc10010tc10010vc10010wc10010xc10010z30010Zd100
  10gd10010.30010jd10010od10010pd10010qd10010rd10010_30010sd10010W40010X40010je10010le10010Y40010q
  e10010ze10010.e10010Xf10010cf10010df10010a40010uf10010wf10010c40010yf10010sg10010f40010zg10010Yh
  10010ph10010sh10010uh10010wh10010yh10010Wi10010j40010Yi10010k40010l40010m40010Xj10010nj10010ek10
  010r40010al10010t40010u40010v40010x40010y40010z40010.40010_40010W50010nr10010rr10010_r10010Xs100
  10ks10010ls10010ht10010rt10010xt10010iu10010t50010u50010zv10010Xw10010bw10010hw10010iw10010jw100
  10kw10010sw10010tw10010uw10010yw10010Wx10010gx10010W60010a60010b60010c60010d60010d.10010l.10010e
  60010n.10010q.10010v.10010f60010..10010X_10010g60010h60010oW20010pW20010sW20010tX20010uX20010vX2
  0010.X20010yY20010zY20010.Y20010_Y20010YZ20010ZZ20010cZ20010rZ20010tZ20010uZ20010vZ20010wZ20010a
  a20010ba20010da20010ea20010fa20010ia20010ja20010ta20010ya20010_a20010Wb20010ob20010pb20010rb2001
  0sb20010tb20010wb20010xb20010fc20010ud20010ue20010ve20010af20010bf20010if20010nf20010ng20010og20
  010xi20010yi20010.i20010_i20010Yj20010aj20010bj20010dj20010ej20010kj20010lj20010pj20010qj20010rj
  20010sj20010xj20010Xk20010ck20010y70010rl20010sl20010tl20010vl20010xl20010yl20010zl20010.l20010_
  l20010Wm20010Xm20010Ym20010Zm20010am20010bm20010cm20010dm20010em20010gm20010im20010km20010mm2001
  0pm20010rm20010um20010mn20010pn20010qn20010rn20010sn20010tn20010un20010vn20010xn20010yn20010Wo20
  010jo20010mo20010no20010sp20010l80010dr20010fr20010gr20010nr20010or20010pr20010rr20010sr20010xr2
  0010.r20010_r20010Ws20010Ys20010Zs20010as20010gs20010is20010.s20010u80010v80010Zu20010w80010du20
  010x80010y80010uu20010z80010Y90010a90010kx20010fy20010ny20010f90010g90010h90010kz20010pz20010i90
  010j90010h.20010k90010l90010m90010n90010z_20010__20010xX30010fY30010zZ30010ua30010za30010tb30010
  yb30010ac30010ec30010hc30010Zg30010cg30010ig30010kg30010og30010ug30010vh30010zp30010vq30010wq300
  10Wr30010d10010xC0010ng40010og40010vg40010wg40010_D0010lj40010pk40010Wl40010bl40010el40010_l4001
  0WF0010lz40010uF0010a.40010n.40010q_40010zY50010.Y50010_Z50010Wa50010ha50010lG0010_f50010eg50010
  hg50010kg50010ug50010vg50010eh50010bH0010qh50010tj50010Wk50010Zl50010al50010bl50010gm50010mn5001
  0yo50010zH0010uq50010Xs50010rI0010nJ0010nK0010oK0010qK0010rK0010tK0010uK0010zK0010.K0010XL0010ZL
  0010pL0010sL0010wL0010cM0010jM0010kM0010lM0010YN0010ZN0010aN0010eN0010fN0010hN0010iN0010jN0010kN
  0010lN0010mN0010u20010v20010y20010.20010_20010W30010X30022v61000gY10022v61002s8100022x62002y6200
  022x630R2y630S022_62002W7200022_63002t8300012Z7210012Z731x1012Z731_1012Z741Y4012Z741a4012Z741c40
  12Z741d4012Z751o5012Z751p5012e7100012e7107012e7300012e7307012f7200012f7300022t72000Y50022t72000b
  50022t72000c50022t72000d50022t72000e50022t72000f50022t72000g50022t72000h50022t72000i50022z720u20
  nG0022z720u20tI0022Y82080Y50022Y82080b50022Y82080c50022Y82080d50022Y82080e50022Y82080f50022Y8208
  0g50022Y82080h50022Y82080i50022Z82080Y50022Z82080b50022Z82080c50022Z82080d50022Z82080e50022Z8208
  0f50022Z82080g50022Z82080h50022Z82080i50012s8100012t8300012v8101012k920f4012k930s5012k930t5012x9
  20k2022dA10m10oZ50012XB300012XB400012XB500022jB2000m31022jB2000tZ11022jB2000uZ11022jB2000vZ11022
  jB2000yc11022jB2000ud11022jB2000k51022jB2000WW21022jB2000eu21022jB2000o91022jB2000V1022jB2000pa3
  1022jB2000gA1022jB2000Zh31022jB2000ni31022jB2000oi31022jB2000qC1022jB2000rC1022jB2000ej41022jB20
  00fj41022jB2000gj41022jB2000w_41022jB2000x_41022jB2000y_41022jB2000z_41022jB2000._41022jB2000__4
  1022jB2000mf51022jB2000of51022jB2000pf51022jB2000qf51022jB2000vK1022jB2000bL1022jB2000zL1022kB20
  K0kb30022tB2000bq31012uB200022uB2000vg41012vB200022vB2000wg41012xB200012yB200022.B20K0pr11022.B2
  0K0qr11022.B20K0.v11022.B20K0vW21022.B20K0uf21022.B20K0qp21022.B20K0Zr21012WC10y1022WC20Z40gj310
  12ZC20f4012ZC20Z7110A0110a30110eV0110kV0110lV0110oV0110pV0110qV0110rV0110sV0110tV0110XW10110YW10
  110ZW10110aW10110bW10110cW10110iW10110jW10110kW10110lW10110mW10110nW10110oW10110pW10110xW10110yW
  10110zW10110.W10110_W10110WX10110jX10110kX10110lX10110mX10110nX10110oX10110tX10110uX10110vX10110
  .X10110_X10110WY10110XY10110YY10110ZY10110aY10110bY10110cY10110dY10110fY10110hY10110pY10110rY101
  10sZ10110ga10110ha10110ma10110na10110Xb10110lb10110Zc10110ad10110bd10110hd10110id10110kd10110ld1
  0110Xe10110Ye10110be10110ef10110ff10110hf10110if10110.f10110_f10110E0110ti10110zi10110Wj10110Zj1
  0110bj10110tj10110vj10110Xk10110hk10110jk10110qk10110sk10110wk10110s40110dl10110gl10110hl10110ll
  10110xl10110zl10110.l10110_l10110Wm10110Xm10110am10110bm10110cm10110dm10110gm10110im10110jm10110
  km10110lm10110om10110pm10110sm10110tm10110zm10110Xn10110Yn10110Zn10110an10110bn10110cn10110dn101
  10en10110fn10110gn10110hn10110ln10110mn10110nn10110on10110pn10110qn10110rn10110sn10110tn10110un1
  0110.n10110eo10110go10110so10110yo10110zo10110np10110tp10110up10110wp10110xp10110fq10110gq10110h
  q10110iq10110kq10110nq10110vq10110wq10110ar10110cr10110hr10110ir10110jr10110kr10110lr10110or1011
  0sr10110vr10110yr10110zr10110Ws10110es10110zs10110ot10110qt10110st10110Wu10110Xu10110fu10110hu10
  110ku10110lu10110mu10110yv10110w50110x50110qw10110_w10110z50110.50110lx10110ox10110px10110tx1011
  0yx10110ay10110cy10110dy10110ey10110fy10110X60110gy10110jy10110ky10110ly10110my10110py10110Y6011
  0sy10110ty10110uy10110vy10110yy10110zy10110Wz10110Xz10110dz10110gz10110iz10110jz10110kz10110lz10
  110mz10110nz10110oz10110pz10110qz10110rz10110sz10110wz10110xz10110yz10110zz10110.z10110_z10110W.
  10110X.10110Y.10110Z.10110c.10110g.10110h.10110o.10110p.10110r.10110s.10110x.10110y.10110z.10110
  cW20110dW20110l60110_W20110m60110XX20110ZX20110hX20110lX20110mX20110nX20110oX20110wX20110p60110q
  60110fY20110gY20110hY20110iY20110mY20110r60110s60110eZ20110fZ20110x60110fb20110qb20110vb20110.b2
  0110_b20110Yc20110Zc20110e70110f70110eg20110jg20110lg20110sg20110tg20110vg20110wg20110s70110u701
  10v70110zj20110_j20110Wk20110ak20110dk20110ek20110x70110z70110.70110W80110nm20110ym20110Q0110hn2
  0110in20110jn20110kn20110ln20110b80110on20110Xo20110Zo20110ao20110d80110e80110oo20110pp20110vp20
  110wp20110xp20110yp20110.p20110Wq20110Xq20110Yq20110Zq20110aq20110cq20110er20110yr20110ds20110ks
  20110ms20110ss20110ts20110ys20110zs20110Zt20110at20110bt20110ct20110dt20110et20110ft20110gt20110
  ht20110it20110jt20110kt20110lt20110mt20110nt20110ot20110pt20110qt20110rt20110st20110tt20110ut201
  10vt20110wt20110xt20110yt20110zt20110.t20110_t20110Wu20110Xu20110Yu20110mu20110nu20110ou20110pu2
  0110qu20110ru20110su20110tu20110.u20110Xv20110Zv20110jv20110lv20110mv20110vv20110xv20110.v20110_
  v20110W90110Ww20110Xw20110Yw20110bw20110dw20110jw20110kw20110lw20110mw20110nw20110ow20110pw20110
  qw20110rw20110sw20110tw20110uw20110vw20110ww20110xw20110yw20110zw20110Z90110.w20110_w20110Wx2011
  0Xx20110Yx20110Zx20110ax20110bx20110cx20110dx20110ex20110fx20110gx20110hx20110ix20110tx20110ux20
  110vx20110wx20110Xy20110Yy20110Zy20110ay20110tz20110m.20110n.20110o.20110p.20110q.20110r.20110s.
  20110t.20110u.20110w.20110z.20110..20110_.20110W_20110X_20110Y_20110Z_20110a_20110b_20110c_20110
  d_20110e_20110f_20110g_20110h_20110i_20110j_20110k_20110l_20110m_20110n_20110o_20110p_20110q_201
  10r_20110s_20110t_20110u_20110v_20110w_20110x_20110y_20110YW30110aW30110bW30110cW30110dW30110fW3
  0110gW30110hW30110iW30110jW30110kW30110lW30110mW30110nW30110oW30110pW30110qW30110rW30110sW30110t
  W30110uW30110vW30110wW30110xW30110yW30110zW30110.W30110_W30110WX30110XX30110YX30110ZX30110aX3011
  0dX30110iX30110lX30110YY30110aY30110dY30110pY30110sY30110tY30110xY30110YZ30110aZ30110fZ30110kZ30
  110oZ30110yZ30110Za30110aa30110ba30110ca30110da30110ea30110fa30110ga30110ha30110ra30110ta30110xa
  30110ya30110za30110.a30110fb30110jb30110kb30110lb30110mb30110sb30110vb30110Yc30110bc30110cc30110
  dc30110ic30110kc30110lc30110pc30110ue30110xe30110ye30110_e30110Xf30110cf30110ef30110nA0110jf3011
  0pf30110sf30110uf30110bg30110hg30110jg30110ng30110rA0110sA0110fh30110hh30110ih30110jh30110nh3011
  0oh30110ph30110qh30110rh30110sh30110th30110zh30110_h30110fi30110gi30110hi30110.i30110Yj30110Zj30
  110fj30110mj30110oj30110qj30110vj30110zj30110Xk30110Yk30110Zk30110ak30110bk30110ck30110dk30110ek
  30110fk30110gk30110kk30110lk30110mk30110nk30110ok30110pk30110YB0110qk30110rk30110sk30110tk30110u
  k30110vk30110wk30110xk30110yk30110zk30110ZB0110.k30110_k30110Wl30110Xl30110Yl30110Zl30110al30110
  bl30110cl30110dl30110aB0110el30110fl30110il30110jl30110kl30110ll30110ml30110nl30110bB0110ol30110
  pl30110ql30110rl30110sl30110tl30110ul30110vl30110wl30110xl30110yl30110zl30110.l30110_l30110Wm301
  10Xm30110Ym30110Zm30110am30110bm30110dB0110cm30110dm30110em30110fm30110gm30110hm30110im30110jm30
  110km30110lm30110mm30110nm30110pm30110qm30110rm30110sm30110tm30110um30110vm30110wm30110xm30110ym
  30110zm30110.m30110_m30110Wn30110Xn30110Yn30110Zn30110gB0110an30110bn30110cn30110dn30110en30110f
  n30110gn30110hn30110in30110jn30110hB0110on30110pn30110qn30110iB0110jB0110Zo30110ao30110co30110eo
  30110fo30110kB0110jo30110nB0110oB0110xp30110pB0110Zq30110qB0110hq30110iq30110jq30110lq30110oq301
  10qq30110tq30110xq30110Zr30110ar30110tB0110uB0110ur30110vr30110vB0110wB0110js30110ks30110ms30110
  _s30110zB0110.B0110_B0110WC0110fu30110hu30110ku30110ru30110su30110uu30110vu30110ZC0110Wv30110bv3
  0110aC0110hv30110nv30110bC0110ov30110tv30110wv30110xv30110cC0110yv30110Ww30110Xw30110Yw30110fw30
  110gw30110tw30110fC0110ww30110xw30110Xx30110gC0110hC0110kx30110mx30110qx30110tx30110iC0110Xy3011
  0hy30110iy30110my30110lC0110e10110mC0110nC0110nz30110oC0110uz30110yz30110_z30110u_30110z_30110._
  30110yC0110wX40110XY40110zY40110bZ40110g10110mZ40110tZ40110yZ40110zZ40110Xa40110ha40110ka40110la
  40110za40110.a40110_a40110Wb40110fb40110gb40110hb40110ib40110ob40110pb40110rb40110ub40110vb40110
  xb40110yb40110zb40110.b40110Wc40110Xc40110Yc40110Zc40110cc40110dc40110fc40110gc40110hc40110h1011
  0ic40110kc40110lc40110mc40110pc40110qc40110.c40110mD0110cd40110gd40110jd40110kd40110ld40110md401
  10qd40110ud40110wd40110xd40110zd40110.d40110_d40110We40110Xe40110Ye40110Ze40110ae40110be40110ce4
  0110de40110qD0110ee40110fe40110ge40110he40110ie40110ke40110le40110me40110pe40110se40110bf40110uD
  0110of40110vD0110zf40110_f40110Zg40110wD0110bg40110xD0110ng40110og40110rg40110vg40110wg40110gh40
  110jh40110pi40110ui40110wi40110yi40110.i40110bj40110zj40110Xk40110ek40110nk40110cl40110el40110k1
  0110xl40110yl40110.l40110_l40110Wm40110Xm40110hm40110mm40110nE0110pE0110tE0110XF0110oF0110ly4011
  0ny40110rF0110qy40110sy40110mz40110g.40110h.40110i.40110_.40110W_40110X_40110l_40110dW50110eW501
  10fW50110lW50110rW50110_W50110XX50110kX50110rX50110sX50110eG0110qY50110WZ50110gG0110fZ50110nZ501
  10qZ50110ga50110ra50110mG0110Zb50110ab50110fb50110lb50110sb50110wb50110Xc50110Yc50110Zc50110pc50
  110qc50110rc50110fd50110id50110md50110pd50110qd50110rd50110ud50110wd50110xd50110yd50110zd50110_d
  50110We50110Xe50110Ye50110be50110de50110ee50110fe50110ge50110he50110me50110pe50110Zf50110ff50110
  WH0110ig50110lg50110mg50110ng50110og50110YH0110qg50110rg50110sg50110jh50110lh50110mh50110nh50110
  qh50110vh50110xh50110t10110cH0110.h50110Wi50110ii50110Zj50110aj50110dj50110gj50110mj50110ak50110
  dk50110uk50110vk50110yk50110_k50110u10110il50110ll50110_l50110Wm50110Zm50110cm50110hm50110im5011
  0rH0110pm50110sm50110tH0110cn50110dn50110gn50110jn50110nn50110on50110tn50110wn50110go50110ho5011
  0ko50110no50110to50110zo50110.o50110_o50110Yp50110.H0110Wr50110w10110Ys50110cs50110ds50110jI0110
  x10110lI0110sI0110bJ0110dJ0110.10110oJ0110XK0110ZK0110a20110b20110c20110d20110hM0110iM0110tM0110
  uM0110vM0110wM0110xM0110yM0110zM0110j20110bO0110cO0110eO0110k20110m20110n20110iP0110jP0110oP0110
  pP0110vP0110aQ0110cQ0110dQ0110q20110gQ0110hQ0110lQ0110mQ0110oQ0110sQ0110.Q0110_Q0110WR0110XR0110
  bR0110cR0110fR0110jR0110kR0110lR0110mR0110wR0110xR0110aS0110bS0110cS0110dS0110eS0110fS0110gS0110
  hS0110iS0110jS0110mS0110nS0110rS0110sS0110tS0110uS0110xS0110yS0110zS0110.S0110_S0110WT0110XT0110
  YT0110ZT0110bT0110cT0110eT0110fT0110iT0110jT0110kT0110mT0110oT0110pT0110rT0110sT0110uT0110vT0110
  xT0110yT0110zT0110.T0110_T0110WU0110bU0110kU0110tU0110vU0110wU0110xU0110WV0110XV0110YV0110ZV0110
  aV0110bV0110cV0110dV0112i5000112i5200112k5300112n5100112r5300112t5300112u5200112u5300112u5400112
  u5500112p630u2112p640i7112q6200112q630b6122v61000kl50122v61002s8100132v61002t91092dA10n1122v6101
  0_70122y62002.A200122.630W22w730W2122.630r22w730W2122_63002t8300122W72002eB200112i7200122o71030X
  W10122o71030.X10122o71030mS0122o71030.S0122o71030eT0122o71030vU0122o720J0ZW10122o720J0XY10122o72
  0J0nS0122o720J0_S0122o720J0fT0122o720J0XV0122n81100WE0122n81100vF0122n81100.H0122n81102dA10m1112
  b9200112b9300112k920f4112k930s5112k930t5122t91092dA10n1122dA10m10oZ50122dA10m12b7300122dA10n12t9
  20b1112sA30h6112sA50q8122jB2000i61122jB2000__11122jB2000t61122jB2000ah31122jB2000.p31122jB2000wu
  31122jB200041122jB2000ve41122jB2000we41122jB2000nf51122jB2000nN1122kB20K0rc41122lB2000uc31122mB2
  000_a31122nB2000aj31112oB200122oB2000tA1122oB2000sh51122pB2000cf21122qB2000mW21132rB1002sB1000wv
  20132rB1002sB1000ZZ30122rB2000k81122sB2000f81112tB200122tB2000_81122uB2000vg41122vB2000wg41122wB
  2000WD1122wB2000ZE1112zB100112zB200122zB2000kA1122.B1000.n21122.B20d30Yo21112.B20K122.B20K0ui111
  22.B20K0Yr21122.B20K0oA1122.B20K0rc41122.B20K0.g41122.B20K0_g41122_B2000z61122WC20Z40b91122WC20Z
  40gj31122XC20Y50xA1122YC2000mU1112ZC20Z7122ZC20Z70ig41112aC20b7122aC20b70wq21112bC200122bC2000fx
  31122bC2000lU1122dC2000jm41122eC2000kS1113gs5010Y50Z51Z51Z51Z51Z51Z51Z51Z51Z51Z51Z51Z51Z51Z51Z51
  Z51Z51Z51Z51Z51Z51Z51Z51Z51Z51Z51Z51Z51Z51Z51Z51Z51Z51Z51Z51Z51Z51Z51Z51Z51Z51Z51Z51Z51Z51Z51Z52
  Z52Z51Z52Z51Z53Z51Z51Z51Z51Z51Z51Z51Z51Z51Z51Z51Z51Z51Z51Z51Z51Z51Z51Z51Z51Z51Z51Z51Z51Z51Z51Z51
  Z51Z51Z51Z51Z51Z51Z51Z51Z51Z51Z51Z51Z51Z51Z51Z51Z51Z51Z51Z51Z51Z51Z53Z51kL1Z51Z51Z53Z51Z51Z51Z51
  Z51Z51Z51Z51Z51Z51Z51Z51Z51Z51Z51Z51Z51Z51Z51Z51Z51Z51Z51Z51Z51Z51Z51Z51Z51Z51Z51Z51Z51Z51Z51Z51
  Z51Z51Z52Z51Z51Z51Z51Z51Z51Z51Z51Z51Z51Z51Z5111Z51Z51Z5120z40zm41hP1fk31jP3gP1vC3dP1sN3Q2iN2ZC1e
  P1YC1v22jN1_C1hN1q31yB2x73kN1xC1WD1zC1.C1XD1wC1yC5v71z38w21x23XM1lP1YM3cP1y7PQ1Q1r43W49v21Q1Q1u2
  1u2411o35y31m83G1G1G1G1G1Z81L1Y11Y11Y11Y12kP1Y11Y11Y11Y11fP1Y11Y11Y11Y11Y11Y11bC7cC1dCG14rf51jO5
  jO1pi31jO7F1jO1kO1kO2jO2jO1jO1jO1jO2jO1jO1jO1jO1jO1jO1jO1jO1jO1jO1jO6_e11pv11ms11XW21__11tf53__1
  1tf51XW22.X34XW23__11kO2__11kO1__11kO1__11sf53__11qv11XW21_e11_e11XW21av21XW22tf52XW21XW21XW21XW
  21WW51__11__12__11__12wd14_p3B_e13kO2XW21XW21XW25kO1kO1kO1a72kO2kO2kO3kOl1XW5CF1Wq3230v51ft12S1_
  i12S1j11jf1121oP1dt11oE2ht15S1q41lV5jT2oE1o512AoE4n51au132223c11d13k11tP1i11kC161et11p5131313131
  3131313131313131313131hL12121212121nk1121ok11lk11lk11no112121sE16121612161612121Y31Zq11K1qb11qb1
  411pe15me11q53ng2191cK1cK1cK1gt11L1S1mg21S1S1pk11S1S1S1S1S1S1dN1dN1dN1dN1dN1dN1k822Bl82u91i41E1E
  1h54611Byo3a1kb11qm21sj11Zo11Yo11rp33Yo11rp31Zo12ia31Zh53Zo13Yo13Yo12Yo12Yo11kp53Yo11bk11Zo11dd1
  1dd11Zo11sx21Zo12rp32Zo11Zo11Zo11Zo12Yb21Yo12Yo11Yo12wd14vv32kv31vi38dd15Zo11Zo11Zo18Zo13fu2Gyu2
  1zu23sz26fv21gv22cv21fv21cv21cv27cv21cv21cv22cv21hv21cv21cv21cv21cv22cv23iX56cv21cv21fv21cv21cv2
  1fv22mi423158_h14hKGhKChKKnO123p1001_X2101yZ21tk12xX24uX22gK1hq36vX2Qux1DzZ24ba2HvPb1tx11Xy1A_Z2
  1Wa21tv11tv12.Z21cq11cq11cq11Xa21wX21sd11sd11sd11sd11sd11sd1T0FHX1.f52mj42.f5U.f51nj46YW2Dmj41nj
  41nj41mj41ri31ri3Sop21dq2v1H6oj41pj41211Drn31213Dfp3k5Jo5J121U1ky22dd33dy24zx23Xm26.x2d1fd34Ze3X
  2jd31ld31ik21ik22hd31Ya21Ya21Ya21nd31_x21iu11iu11iu11iu11iu11iu1i1Na2vy4Kvy41vy4v2N6wy4121N1ly22
  ed33ey24Wy29Xy2d1gd34ae3X2kd31md31jk21jk22id31Za21Za21Za21od31Yy21ju11ju11ju11ju11ju11ju1128n20z
  w21ig3101ch32dl21hg31lg33eg31so42zw21rx12yg32rg31fg31qg31.w22zg31.g31vg31mo41wo42tg33_g31ng31Wh3
  1wg31xg31Xh31mg31pg32dl23jg31oo48to41uo43og31eh31sg33dg31ug3Prx11rx11Yh33po49.w21rx11rx11_w21_w2
  5qo45no41vo43qx11qx11qx11qx11qx11kg31ro41qk11qk11qk11qk12dh31qk11qk11qk11qk11gg31qk11qk11qk11qk1
  1qk11qk11Zh37ah31bh3K0F9o59129800203_k28fn4S_k2Z40FBo5B12155Wl28gn4SWl2o49o5912155zk28dn4Szk2o4D
  o5D12235.k28en4S.k212D50jv220g50FGo5G1212x59o5912110.m4121200Dsj41213Dtj4k5Ho5H1221DYn31213Dyq3k
  5Lo5L1221D.q31213Dbn3k5Jo5J1221Dbm31213Dsk3k5No5N1221Dir31213Djr3k5Po5P1221Dor31213Dyj4k5Uo5U121
  3Dlr3k5Ro5R1231D.j4121Z11zi12ej13yi14ui11cS203Zj13vi14aj12Yj17bj1PZQ1gj11aQ3xi1X2j31j31j31j32fj1
  1j31j31j31j31wi11j31j31j31j31j31j3i1Xg5k3sf2a201du31223D0k5wOo501211x5zO1211x5oN1211x5XP1211x5YP
  1211x5wP32Z1u31Zo12m11j52m120101yU1Yo11lq12nn15m12q2701i710A04h71.n11en320208YV20101ao11j7101010
  1010101010101010101010101ro110101010101.K101_K1XZ11XZ11y110101w110101010101010101q21mh11W11o21o2
  Br73mn15ho12m11eo11m11m11WL1m11m11m11m11m11m11vI1vI1vI1vI1vI1vI1aL20BZL2nK80Cpp3a1cd11aW24ui31sj
  43ui3Ikj56zc11zc12nx23ui31tj4Goe42Wf41pw38zc1Y1pb34_q31nl41nl41nl41nl41nl4Shf5Kuj41vj41221x5nQ12
  11x5dR1211x5rR1211x5sR1211x5tR1211x5.R1211x5_R1211x5WS1211x5XS12H1x5wO1211x5zO121T1lh12yh13kh14i
  h16rh13hh14th12qh17sh1Q.h14jh1X2.21.21.21.22zh11.21.21.21.21gh11.21.21.21.21.21.2i1m_4p5tu31221x
  5XP1211x5YP1211x5wP32G4k1pk3g5gc2d1.y4s3_y41221x5nQ1211x5dR1211x5rR1211x5sR1211x5tR1211x5.R1211x
  5_R1211x5WS1211x5XS32A1k1hp33211k1kn33211k1lp33211k1mp332U1k1mq33221k1oq33211k1xq33217Cnr3Y1mn3p
  8b.41b.41b.41b.41b.412M1x5wO1211x5zO1211x5XP1211x5YP1211x5wP1211x5nQ1211x5dR1211x5rR1211x5sR1211
  x5tR1211x5.R1211x5_R1211x5WS1211x5XS1211x5u_444q2.31Wr12k5122k51W71rO2.q11s8161dZ11K5k5101K5q316
  10CWM5z35cj13w21x23.61lr11_61_B2_q1H062221K1K1r4DK2h21h25o35y34G1G1G1G1G1vm12k51k51k51k51xL1k51k
  51k51k51k51k51k51k51k51k51k51k510D0201010101026Epi3a1me11ol21Wo12__11lj53__11lj5406__13__12__12_
  _11sf53__11nn22me11me15lj57__11__12__11__16_p320108me1I0G01030601020101010701010201010101010203X
  W56010101010102ze45fk41gk44412DbZ1cBZz44411DcZ143t2Z21oS327mS3K606vs1Jws1HnSN2221lV1lV4mr1AK8xs1
  5s14sz12919191pS3S3yX17S1S1S1S1S1S10D02010101010Ggo3n10X1Yo1A_p3T0G01030601020101010701010201010
  101010203XW560101010101043178jf14oEGoECoEKkCy1rg2v4Zw34312u3jW3v4aw332Mz11WY2AtX2102Z.1Ezn1Hdc21
  0G.X2HhL6oB2pB1jr11jr1Mp_15a_14fY22wm11wm11wm11gY23dZ23qB2.i11.i11.i11kx12td11td11td11td11td11td
  11k8Dl82u9Kmo3b1ps150Mrj4C05Wg51ub2Avv32_u31vi3X1.81p91rj41rj41wi35yu24yf41010101010SiX5Di870104
  322u3nW3v4zw34312u3oW3v4.w34312u3qW3v4Wx34312u3uW3v4nx34312u3sz1v4kv33262u6pu1i1Yl53211WArh443Bo
  11Xq12k43k44Wq11w32hK6k42K5q1Jb31hK4mN8dq14_p1H09K1K1y13sECh21h25o1995zB2k41k41k41k42k41k41k41k4
  1k41k41k41k41k41k41k41k4g2dj13lj54lj5Ikj56kb11kb15lj5J0108kb1323w11ft12S3S4oP1dt13ht15S2Y38o5Fn5
  1au1DtP4et11p5Plk11lk1DY31Zq11K1h21h25pe15me11q53hx12cK1cK1cK1gt12S1ix11S1S2S1bL1bL1bL1zd11S1dN1
  dN1dN1dN1dN1dNa1yo3a1kb11qm24rp34rp3Ikp56dd11dd12sx23rp3601Yb2Ldd1432X11yJ2F3F2jf12tF1X91oE1oE6F
  9oECoE5_71oECuF2kC2wIX2F1F1F1F2F1F1F1F1F1F1F1F1F1F1F1FZ3kp543178dK4vR1vRFvRCvR6vRr2z.1434A8Yb146
  16E616C666r20i4qw3o2pY54312l8_p3o2XW53251WAih44348C616E616C666EnOd203221WArh43211WAzh43211WAbi44
  4N68ZS50Rvo1x20m70104412D6R04412l8qw3o2pY543C4D0X10X7qw3o2pY54486S0C0604cj1A_Bf3643G4D0X10X7qw3o
  2pY54461e1cp1441T1kf22zO3zO2kt12af29zOC290Ipk22un12jf2SrPb1zO1zO1zO1zO2zO1zO1zO1zO1zO1zO1zO1zO1z
  O1zO1zO1zOZ3pr54412l8qw3o2pY54453D0I2Tun14441e1kp143H6Cii11ii1E010C06ii14316C610E63mo11fr1F0432U
  1zu12b83b82nr12lu12oE106b8Lus16hKCuv12bV2.u1X2b81b81b81b82b81b81b81b81b81b81b81b81b81b81b81b8Z3_
  p54334D0RvRd7qw3o2pY543238dj140Y164311e1_W24341e1043768_h14hK1hKX10X7Xd4o2re5449S1of22_O3_O2ta12
  ff2207_OL0Isk22eX12mf2X2_O1_O1_O1_O2_O1_O1_O1_O1_O1_O1_O1_O1_O1_O1_O1_OZ3lq54412l8qw3o2pY544C3C0
  J0TeX1438U1pf22WP3WP2lt12gf220166WPL660Ctk22vn12qf2X2WP1WP1WP1WP2WP1WP1WP1WP1WP1WP1WP1WP1WP1WP1W
  P1WPZ3tp54312l8_p3o2XW543S5C0F010I0Evn1433V1nf22.O3.O2ot12bf226106.OL0Iqk22xn12sf2SiPb1.O1.O1.O1
  .O2.O1.O1.O1.O1.O1.O1.O1.O1.O1.O1.O1.O62z2dr54384D0X1hKX7qe4o2jf54322l8_p3o2XW54345C610R0Kxn1v22
  4355D0RvRKkCp6qw3o2pY54315Umo11fr190d7_p3o2XW543F3e10d7qw3o2pY5433T1rf22XP3XP2nt12if29XPC290Ivk2
  2wn12Xg2SsPb1XP1XP1XP1XP2XP1XP1XP1XP1XP1XP1XP1XP1XP1XP1XP1XPZ3dq543H1e104344U210F6EbV4332l8_p3o2
  XW54323V2F0Ewn143138d.1N0TkC32l2p21oy23bT7yx2102sa36fS6zh3Jrj4107w21x28uz2HhL6WT2XT1tj21tj2EhY38
  g.35np34cW32hY21hY21hY21g_23x_23YT7mu11mu11mu11mu11mu11mu11nTDmT2eS1hS1i21i21xQGbp3b1hf25.X57rp5
  R06y.1Axc42gl41vi3Qg.2Gf.21cY33Yb310101010101jY31kY32gY31jY31gY31gY37gY31gY31gY32gY31lY31gY31gY3
  1gY31gY32gY33oe56gY31gY31jY31gY31gY31jY3901043218e.143B1e1043218g.143118dK43118j.143118k.143118l
  .143118f.143118m.143118h.132z1n11tz22A3A4vA1xx28A90Hqj4DwA4.e2H0f1gY35uX32A1kg21A1A2A1A1A1A1A1A1
  vu11vu11vu11vu11vu11vu1f2YX24lp54lp5J05cd11cd15lp56ch5D0108cd1P0101010109ol47ex33cg4a1mi4321Y31u
  y22H3H1W73vM1_e23ma35H2v25yc23x7Fv71Wr28w21x23.61WN1_63ay21y7Pmj21mj21r43W49v21qZ31Q1u21u25jq25l
  m21m83lg21G1Yv11Yv11Yv11l_22H1h_21H1H2H1H1H1H1H1H1nu11nu11nu11nu11nu11nu1a1hj3a1_e11ys11ms11XW21
  __11tf53__11tf51XW22.X34XW23__13__12__12__11sf53__11qv11XW21_e11_e11XW21av21XW22tf52XW21XW21XW21
  XW2101Zw11__12__11__1H_e15XW21XW21XW28XW2NWt37gv23fv2a1ze432q1t11gz22tm13tm14ry21vx23ra35tm190Hp
  j4Dud34k.2H09sj21sj2Mf.35Zr34fY32qY21qY21qY21tW32tm11XW31tm11tm12tm11tm11tm11tm11tm11tm11pu11pu1
  1pu11pu11pu11pu1a1_o3f1up34up3J05zh11zh15up37dk2C0108zh1P0101010109dx3k1mi4323l11hz22yR3yR4Zf21w
  x23nn15yRQ.n1Dok24iz2QXZ11XZ1Mpe15me14mn12cK1cK1cK1aX32yR1w_21yR1yR2yR1yR1yR1yR1yR1yR1qu11qu11qu
  11qu11qu11qu1f2xv14fv34fv3OYf11Yf15fv3601Yb2LYf1c1dx37gv23fv2324P1hy2AWf23na3Vot2h1rj21rj2Mlq25g
  m24Zg22Wv11Wv11Wv11Z_2Dku11ku11ku11ku11ku11ku1f2Xp1i101ip1x1ot37gv23fv2324v11jz22J3J4iO1ux23ta35
  J2wB8oNFfN1oj4DvQ4_z21qNPuj21uj2DwB1da31n31tB1tB5e.35uq31uN3tX32pY21pY21pY21gX32J1y_21J1J2J1J1J1
  J1J1J1ru11ru11ru11ru11ru11ru1a1Xp3a1pg11mc24mq54mq5Ilq56pg11pg12cy23mq57sg2Lpg1324i11.z22F3F4tF1
  Xf23wa35FQsW2DuF4v.2Qxj21xj2Mo_15Z_14rz12um11um11um11eY32F1fW31F1F2F1F1F1F1F1F1yu11yu11yu11yu11y
  u11yu1f2mk24lj54lj5Okb11kb15lj57m.1Lkb1c1ot3326m11.y22O3O4iQ4xa35O2iE8sQFnQEuQ4my21tQPzj21zj21rP
  CiE1ea31v41qD1qDB.Q8dW32O1i_21O1O2O1O1O1O1O1O1ou11ou11ou11ou11ou11ou1e2mf11xu14qr54qr5Ipr56mf11m
  f12ey23qr5Smf1322m11pz22I3I4wM1Yf23za35I2nB8zMFxMEXN4Y.21.MPXk21Xk2DnB1ga31e31mB1mBBaN8oX32I1z_2
  1I1I2I1I1I1I1I1I1tu11tu11tu11tu11tu11tu1e2tg11.d24er54er5Itp56tg11tg12xx23er5Stg1321m11wz22N3N4X
  Q4.a35N2gC8tOFqOEeQ4n.21uOPfk21fk2DgC1ia31.31fC1fCBwO8vX32N1bW31N1N2N1N1N1N1N1N1wu11wu11wu11wu11
  wu11wu1a1Zp3a1ai11ch24yr54yr5I_p56ai11ai12Wy23yr5Sai1326m11nz22M3M4WQ4Wb35M2mD8bQFYQEdQ4b.21cQPh
  k21hk21iPCmD1la31j41kD1kDBgQ8nX32M1._21M1M2M1M1M1M1M1M1su11su11su11su11su11su1e2jg11d_14nr54nr5I
  dr56jg11jg12dy23nr5Sjg1325m11xz22P3P4jQ4_a35P2gE8qQFoQEwQ4o.21rQPgk21gk21sPCgE1ja31u41rD1rDBzQ8w
  X32P1eW31P1P2P1P1P1P1P1P1xu11xu11xu11xu11xu11xu1e2bi11Zi24.r54.r5Idq56bi11bi12by23.r5Sbi153o1W31
  sB2A1.b32A201b91vA2l51l51W15A2W16l51l51i71b9Al54h72l52b92b98wA201l51eB1j710101010101010101010101
  01010102l51l51b91l51l51b91l51b91W11W12l51l52l51b91l51b91l51l51l51b91q21W11W11o21o2Br78fB2A1A1A1A
  2A1A1A1A1A1A1A1A1A1A1A1A3b9Ll5m1cd11co11sj13lp54lp5Ocd11cd12nx23lp5Scd154CW31aO3vb35b92s81l51l51
  Q601Q5q31l53b9Fz33b92b9Bl51cNIl51l51b91l51l51b91l51b91Q1Q2l51l51hZ21l51b91l51b91l51l51l51b92Q8o3
  5y34G2G1G1G1Z83H307H1H1H1H1H1H102b9B020101010102l52l5Cpi3b1rs1C0X1__1A_p3T0G01030601020101010701
  010201010101010203XW5601010101010541p11lR2O1mc32O4iQ301v45O2v48sQ2b9DnQEuQ4bR1tQPv41v41rPCiE1v41
  v41qD1qDB.Q8hR2O1O1O1O2O1O1O1O1O1O1O1O1O1O1O1Oe2mf11nv14qr54qr5Ipr56mf11mf12ey23qr5Smf1542o11jO2
  J1bc32J4iO20101n35J2n38oNFfNEvQ4bO1qNPn31n3DwB1n31n31tB1tBBuN8dO2J1J1J1J2J1J1J1J1J1J1J1J1J1J1J1J
  e2pg11ld24mq54mq5Ilq56pg11pg12cy23mq5Spg1534t11cR2M1cd32M4WQ301j45M2j460101bQB04YQ20CdQ4kQ1cQPj4
  1j41iPCmD1j41j41kD1kDBgQ8pQ2M1M1M1M2M1M1M1M1M1M1M1M1M1M1M1M6b9Y2jg11z_14nr54nr5Idr56jg11jg12dy23
  nr5Sjg1535q11cO2I1uc32I4wM202e35I2e360101zMFxM20CXN4eN1.MPe31e3DnB1e31e31mB1mBBaN8gN2I1I1I1I2I1I
  1I1I1I1I1I1I1I1I1I1Ie2tg11qe24er54er5Itp56tg11tg12xx23er5Stg1531s11mR2P1bd32P4jQ1X9201u45P2u48qQ
  2b9904oQ1_7DwQ4fR1rQPu41u41sPCgE1u41u41rD1rDBzQ8iR2P1P1P1P2P1P1P1P1P1P1P1P1P1P1P1Pe2bi11vi24.r54
  .r5Idq56bi11bi12by23.r5Sbi1532p11eR2N1Yd32N4XQ301.35N2.38tOB04qO2l5CeQ4lQ1uOP.31.3DgC1.31.31fC1f
  CBwO8pP2N1N1N1N2N1N1N1N1N1N1N1N1N1N1N1Ne2ai11yh24yr54yr5I_p56ai11ai12Wy23yr5Sai153Lj14dc3401b9Lb
  9Ib92b9A01l53010101010101010101010101010102l51l51b91l51l51b91l51b94l51l52l51b91l51b91l51l51l51b9
  j1b9Ll5n1dl21sj123p5i31i820301y21Yb1201g716161u750225t5161610B6401w5167t11u13010103cB10G09jV1jV1
  23kk1901E1016165v55u5103b6101V1V1V1V10101dB10102010101010101E1E1E1E1E1Ea1xk4a1010101010103010102
  0403030202010301010101010101020201010102dv2102010204ah520108050101080u1bX5D024168ZSK0C060E_Bf362
  4148kt150I2Tun1129z1402uu11iv1201cf28ZC1hu11YC1wB6030I0207XM1rk21YM20J01010101010101040101W41010
  101010101010Vn.15kz17bC205cC1dCD020BuOBkO1kOQZf2JkO3kO2kOj1kO9kO1kO1kO1a72kO2kO2kO3kOy1av31212o5
  bQc1mf21218AiOl1ZQ1o.11aQf2nk25hf2W5sf2b2yd423488jf14oEF01oE309oEKkCf301222o5uOc1Zf2121U6lf21lj2
  Bgj21df21cj2b1Xj21uk21ij2f2mk25ef27ck27Yk21Zk2Qja4BeZ41eZ4Qyg2JeZ43eZ42eZ4j1eZ49eZ41eZ41eZ41cg22
  eZ42eZ42eZ43eZ4y1je41212o5kZ4c1xg223468Yb14ii1G0CvR6ii1EnO1262a4n.15kz11212o5uOc1Zf2233H8_h14hKS
  06hKGsONrx22sx2f1pO3tx2DaLDZL2nKKn_4y2yq5j1pb34wp3X1gf5231c21hV3ab37dR2hK1qS6fS6ZTJiT107c31d38.U
  Nmx22nx21Wk21Wk2Ei28eT5cT4iV2w71w71w71w73xU3ox27i21i21i21i21i21i21nTDmT2eS1hS1i21i21xQGX.4n1rp5X
  1hY3Agl5Tg.2Gfz21cX33vY36jY31kY32gY31jY31gY31gY37gY31gY31gY32gY31lY31gY31gY31gY31gY32gY33ve56gY3
  1gY31jY31gY31gY31jY324D48ta140J0TeX123168lt156E0D6Kvn1f3023168ot14610R0Kxn1v2223248dK50RvRKkC231
  48dj1W1066EbV23148nt1N2F0Ewn12331e1012l3Y21Wm1307X93W1606q1J_7H.l1N0201W11W1EW18o15s14qg22919191
  Xm13wk2307m11m11m11m11m11m110D02010101010Ggo3n10X1Yo1A_p3T0G010306010201010107010102010101010102
  03XW56010101010101212u6pu1i1Yl5121p11oS2S3S4oP1mS3K5S2Y38o5Fn51eZ1DtP4nS1p5PK1KDY31K1K1h21h2Bq53
  go15pS2S1lo11S1S2S1bL1bL1bL1zd11S1S1S1S1S1S1Se2kb11qm24rp34rp3Ikp56dd11dd12sx23rp360Mdd11214Sus2
  t6ZY5Y2ZY51ZY51211Sqe41214SaZ4t6yy4Y2yy41yy41214SdY4t6zz4Y2zz41zz41231Szq21211ScZ41211Stq21211Sf
  Y412AOCwt1G0Ikm2X1vPf198m15m11m11m11m1m2aW25sj4M0Ctj450DWf4Y1010101010t1mi47uj41vj4540j30x11a12a
  11a11a11a11a12a11a11tt11x11x11a12a12a11a11a11a11a11a11a11a11x11x12a11a12a11a11a11a11a11a11a11a12
  a13a11x13a12rc33x11x13a11a11a12x11a11a1Hx11x11a11x11x11a11x11a11a11a11a11x11x11a11x11a11x11a11x1
  1x11x11a11x11a11a11x11x1411x15x11x13a11a11a11a11a11a11x11a11a11a11a12a11a11a11a11a11a11a11a11a11
  a11a11a11a12a15a11a1Dx12x111Oc75411o1sc35411o1a1541i30z21r12r11l31r11r11r11vX11l31r11z21f11z21r1
  2r12r11r11r11r11r11r11r11r11z21z22r11l32r11r11r11r11r11r11r11r12r13r11z23l32l33z21z23r11r11r12f1
  1r11r1Hf11f11l31f11f11l31f11l31r11r11r11f11f11r11f11l31f11l31f11f11f11l31z21r11r11z21z25z25z21z2
  3r11r11r11r11r11r11z21r11r11r11r12r11r11r11r11r11r11r11r11r11r11r11r11r12l35r11r1Dec22f1P01251u6
  lW21271S012n1c140503_31_38q2601_320A05_31_32_320B0J0101010101_3101_340101w11010101010101010U_3F0
  2lOJ0n1ao11234k1Xn3g5gc2d1.y4s3_y41211k1um31211k1in31211k1sq31211k1_q3549h30nE1X42X41c61X41X41X4
  101c61X41nE1j21nE1X42X42X41X41X41X41X41X41X41X41nE1nE2X41c62X41X41X41X41X41X41X41X42X43X41nE3c62
  c63nE1nE3X41X41X42j21X41X4Hj21j21c61j21j21c61j21c61X41X41X41j21j21X41j21c61j21c61j21j21j21c61nE1
  X41X41nE1nE5nE5nE1nE3X41X41X41X41X41X41nE1X41X41X41X42X41X41X41X41X41X41X41X41X41X41X41X41X42c65
  X41X4Dj22j2541g30W81W52W51W51W51W51W52W51W51W81W81W81W52W52W51W51W51W51W51W51W51W51W81W82W51W52W
  51W51W51W51W51W51W51W52W53W51W83W52W53W81W83W51W51W52W81W51W5HW81W81W51W81W81W51W81W51W51W51W51W
  81W81W51W81W51W81W51W81W81W81W51W81W51W51W81W85W85W81W83W51W51W51W51W51W51W81W51W51W51W52W51W51W
  51W51W51W51W51W51W51W51W51W51W52W55W51W5DW82W8541g30X81X52X51X51X51X51X52X51X51X81X81X81X52X52X5
  1X51X51X51X51X51X51X51X81X82X51X52X51X51X51X51X51X51X51X52X53X51X83X52X53X81X83X51X51X52X81X51X5
  HX81X81X51X81X81X51X81X51X51X51X51X81X81X51X81X51X81X51X81X81X81X51X81X51X51X81X85X85X81X83X51X5
  1X51X51X51X51X81X51X51X51X52X51X51X51X51X51X51X51X51X51X51X51X51X52X55X51X5DX82X8541g30mM1o62o61
  wE1o61o61o62wE1o61mM1X71mM1o62o62o61o61o61o61o61o61o61o61mM1mM2o61wE2o61o61o61o61o61o61o61o62o63
  o61mM3wE2wE3mM1mM3o61o61o62X71o61o6HX71X71wE1X71X71wE1X71wE1o61o61o61X71X71o61X71wE1X71wE1X71X71
  X71wE1mM1o61o61mM1mM5mM5mM1mM3o61o61o61o61o61o61mM1o61o61o61o62o61o61o61o61o61o61o61o61o61o61o61
  o61o62wE5o61o6Dgc22X7541g30d61w42w41w41w41w41w42w41w41d61d61d61w42w42w41w41w41w41w41w41w41w41d61
  d62w41w42w41w41w41w41w41w41w41w42w43w41d63w42w43d61d63w41w41w42d61w41w4Hd61d61w41d61d61w41d61w41
  w41w41w41d61d61w41d61w41d61w41d61d61d61w41d61w41w41d61d65d65d61d63w41w41w41w41w41w41d61w41w41w41
  w42w41w41w41w41w41w41w41w41w41w41w41w41w42w45w41w4Dd62d6541g30e61x42x41x41x41x41x42x41x41e61e61e
  61x42x42x41x41x41x41x41x41x41x41e61e62x41x42x41x41x41x41x41x41x41x42x43x41e63x42x43e61e63x41x41x
  42e61x41x4He61e61x41e61e61x41e61x41x41x41x41e61e61x41e61x41e61x41e61e61e61x41e61x41x41e61e65e65e
  61e63x41x41x41x41x41x41e61x41x41x41x42x41x41x41x41x41x41x41x41x41x41x41x41x42x45x41x4De62e6541g3
  0nM1p62p61xE1p61p61p62xE1p61nM1Z71nM1p62p62p61p61p61p61p61p61p61p61nM1nM2p61xE2p61p61p61p61p61p6
  1p61p62p63p61nM3xE2xE3nM1nM3p61p61p62Z71p61p6HZ71Z71xE1Z71Z71xE1Z71xE1p61p61p61Z71Z71p61Z71xE1Z7
  1xE1Z71Z71Z71xE1nM1p61p61nM1nM5nM5nM1nM3p61p61p61p61p61p61nM1p61p61p61p62p61p61p61p61p61p61p61p6
  1p61p61p61p61p62xE5p61p6Dkc22Z7541g30oM1q62q61yE1q61q61q62yE1q61oM1a71oM1q62q62q61q61q61q61q61q6
  1q61q61oM1oM2q61yE2q61q61q61q61q61q61q61q62q63q61oM3yE2yE3oM1oM3q61q61q62a71q61q6Ha71a71yE1a71a7
  1yE1a71yE1q61q61q61a71a71q61a71yE1a71yE1a71a71a71yE1oM1q61q61oM1oM5oM5oM1oM3q61q61q61q61q61q61oM
  1q61q61q61q62q61q61q61q61q61q61q61q61q61q61q61q61q62yE5q61q6Dlc22a7541g30xN1w62w61YF1w61w61w62YF
  1w61xN1c71xN1w62w62w61w61w61w61w61w61w61w61xN1xN2w61YF2w61w61w61w61w61w61w61w62w63w61xN3YF2YF3xN
  1xN3w61w61w62c71w61w6Hc71c71YF1c71c71YF1c71YF1w61w61w61c71c71w61c71YF1c71YF1c71c71c71YF1xN1w61w6
  1xN1xN5xN5xN1xN3w61w61w61w61w61w61xN1w61w61w61w62w61w61w61w61w61w61w61w61w61w61w61w61w62YF5w61w6
  Dpc22c712At11zz22vb13vb14by21Wm21Xn12.35vb12gC8tOFqO1wm21vb2Cqd34fz21uOGhL9.31.3DgC1.31.31fC1fCB
  wO8ph22vb11vb11vb11vb12vb11vb11vb11vb11vb11vb11vb11vb11vb11vb11vb11vb1e2ai11gk24v_44v_4I_p56kg11
  kg12Wy23v_410Rkg1y1uh5V0542g30pM1r62r61zE1r61r61r62zE1r61pM1h61pM1r62r62r61r61r61r61r61r61r61r61
  pM1pM2r61zE2r61r61r61r61r61r61r61r62r63r61pM3zE2zE3pM1pM3r61r61r62h61r61r6Hh61h61zE1h61h61zE1h61
  zE1r61r61r61h61h61r61h61zE1h61zE1h61h61h61zE1pM1r61r61pM1pM5pM5pM1pM3r61r61r61r61r61r61pM1r61r61
  r61r62r61r61r61r61r61r61r61r61r61r61r61r61r62zE5r61r6Dqc22h6541g30qM1s62s61.E1s61s61s62.E1s61qM1
  b71qM1s62s62s61s61s61s61s61s61s61s61qM1qM2s61.E2s61s61s61s61s61s61s61s62s63s61qM3.E2.E3qM1qM3s61
  s61s62b71s61s6Hb71b71.E1b71b71.E1b71.E1s61s61s61b71b71s61b71.E1b71.E1b71b71b71.E1qM1s61s61qM1qM5
  qM5qM1qM3s61s61s61s61s61s61qM1s61s61s61s62s61s61s61s61s61s61s61s61s61s61s61s61s62.E5s61s6Drc22b7
  541g30yN1x62x61ZF1x61x61x62ZF1x61yN1d71yN1x62x62x61x61x61x61x61x61x61x61yN1yN2x61ZF2x61x61x61x61
  x61x61x61x62x63x61yN3ZF2ZF3yN1yN3x61x61x62d71x61x6Hd71d71ZF1d71d71ZF1d71ZF1x61x61x61d71d71x61d71
  ZF1d71ZF1d71d71d71ZF1yN1x61x61yN1yN5yN5yN1yN3x61x61x61x61x61x61yN1x61x61x61x62x61x61x61x61x61x61
  x61x61x61x61x61x61x62ZF5x61x6Dsc22d7541g30zN1y62y61aF1y61y61y62aF1y61zN1e71zN1y62y62y61y61y61y61
  y61y61y61y61zN1zN2y61aF2y61y61y61y61y61y61y61y62y63y61zN3aF2aF3zN1zN3y61y61y62e71y61y6He71e71aF1
  e71e71aF1e71aF1y61y61y61e71e71y61e71aF1e71aF1e71e71e71aF1zN1y61y61zN1zN5zN5zN1zN3y61y61y61y61y61
  y61zN1y61y61y61y62y61y61y61y61y61y61y61y61y61y61y61y61y62aF5y61y6Dtc22e7541g30rM1t62t61_E1t61t61
  t62_E1t61rM1i61rM1t62t62t61t61t61t61t61t61t61t61rM1rM2t61_E2t61t61t61t61t61t61t61t62t63t61rM3_E2
  _E3rM1rM3t61t61t62i61t61t6Hi61i61_E1i61i61_E1i61_E1t61t61t61i61i61t61i61_E1i61_E1i61i61i61_E1rM1
  t61t61rM1rM5rM5rM1rM3t61t61t61t61t61t61rM1t61t61t61t62t61t61t61t61t61t61t61t61t61t61t61t61t62_E5
  t61t6Duc22i6541g30sM1u62u61WF1u61u61u62WF1u61sM1j61sM1u62u62u61u61u61u61u61u61u61u61sM1sM2u61WF2
  u61u61u61u61u61u61u61u62u63u61sM3WF2WF3sM1sM3u61u61u62j61u61u6Hj61j61WF1j61j61WF1j61WF1u61u61u61
  j61j61u61j61WF1j61WF1j61j61j61WF1sM1u61u61sM1sM5sM5sM1sM3u61u61u61u61u61u61sM1u61u61u61u62u61u61
  u61u61u61u61u61u61u61u61u61u61u62WF5u61u6Dvc22j6541g30.N1z62z61bF1z61z61z62bF1z61.N1f71.N1z62z62
  z61z61z61z61z61z61z61z61.N1.N2z61bF2z61z61z61z61z61z61z61z62z63z61.N3bF2bF3.N1.N3z61z61z62f71z61
  z6Hf71f71bF1f71f71bF1f71bF1z61z61z61f71f71z61f71bF1f71bF1f71f71f71bF1.N1z61z61.N1.N5.N5.N1.N3z61
  z61z61z61z61z61.N1z61z61z61z62z61z61z61z61z61z61z61z61z61z61z61z61z62bF5z61z6Dwc22f7541g30tM1v62
  v61XF1v61v61v62XF1v61tM1k61tM1v62v62v61v61v61v61v61v61v61v61tM1tM2v61XF2v61v61v61v61v61v61v61v62
  v63v61tM3XF2XF3tM1tM3v61v61v62k61v61v6Hk61k61XF1k61k61XF1k61XF1v61v61v61k61k61v61k61XF1k61XF1k61
  k61k61XF1tM1v61v61tM1tM5tM5tM1tM3v61v61v61v61v61v61tM1v61v61v61v62v61v61v61v61v61v61v61v61v61v61
  v61v61v62XF5v61v6Dxc22k654RT4r1401r13z2Ir1Ir12r1Bz2Jz21z21r11z21z21r11z21r14z21z22z21r11z21r11z2
  1z21z21r1j1r1Jzq32z2541g30c51s42s41s41s41s41s42s41s41c51c51c51s42s42s41s41s41s41s41s41s41s41c51c
  52s41s42s41s41s41s41s41s41s41s42s43s41c53s42s43c51c53s41s41s42c51s41s4Hc51c51s41c51c51s41c51s41s
  41s41s41c51c51s41c51s41c51s41c51c51c51s41c51s41s41c51c55c55c51c53s41s41s41s41s41s41c51s41s41s41s
  42s41s41s41s41s41s41s41s41s41s41s41s41s42s45s41s4Dc52c5541g30c21T2T1T1T1T1T2T1T1c21c21c21T2T2T1T
  1T1T1T1T1T1T1c21c22T1T2T1T1T1T1T1T1T1T2T3T1c23T2T3c21c23T1T1T2c21T1THc21c21T1c21c21T1c21T1T1T1T1
  c21c21T1c21T1c21T1c21c21c21T1c21T1T1c21c25c25c21c23T1T1T1T1T1T1c21T1T1T1T2T1T1T1T1T1T1T1T1T1T1T1
  T1T2T5T1TDc22c25411b5cr3541g30d51t42t41t41t41t41t42t41t41d51d51d51t42t42t41t41t41t41t41t41t41t41
  d51d52t41t42t41t41t41t41t41t41t41t42t43t41d53t42t43d51d53t41t41t42d51t41t4Hd51d51t41d51d51t41d51
  t41t41t41t41d51d51t41d51t41d51t41d51d51d51t41d51t41t41d51d55d55d51d53t41t41t41t41t41t41d51t41t41
  t41t42t41t41t41t41t41t41t41t41t41t41t41t41t42t45t41t4Dd52d5541g30Y61_22_21_21_21_21_22_21_21Y61Y
  61Y61_22_22_21_21_21_21_21_21_21_21Y61Y62_21_22_21_21_21_21_21_21_21_22_23_21Y63_22_23Y61Y63_21_
  21_22Y61_21_2HY61Y61_21Y61Y61_21Y61_21_21_21_21Y61Y61_21Y61_21Y61_21Y61Y61Y61_21Y61_21_21Y61Y65Y
  65Y61Y63_21_21_21_21_21_21Y61_21_21_21_22_21_21_21_21_21_21_21_21_21_21_21_21_22_25_21_2DY62Y615
  U8R_310I020d1lOi10X1_31_3542g30f51f22f21f21f21f21f22f21f21f51f51f51f22f22f21f21f21f21f21f21f21f2
  1f51f52f21f22f21f21f21f21f21f21f21f22f23f21f53f22f23f51f53f21f21f22f51f21f2Hf51f51f21f51f51f21f5
  1f21f21f21f21f51f51f21f51f21f51f21f51f51f51f21f51f21f21f51f55f55f51f53f21f21f21f21f21f21f51f21f2
  1f21f22f21f21f21f21f21f21f21f21f21f21f21f21f22f25f21f2Df52f5541g30Z61W32W31W31W31W31W32W31W31Z61
  Z61Z61W32W32W31W31W31W31W31W31W31W31Z61Z62W31W32W31W31W31W31W31W31W31W32W33W31Z63W32W33Z61Z63W31
  W31W32Z61W31W3HZ61Z61W31Z61Z61W31Z61W31W31W31W31Z61Z61W31Z61W31Z61W31Z61Z61Z61W31Z61W31W31Z61Z65
  Z65Z61Z63W31W31W31W31W31W31Z61W31W31W31W32W31W31W31W31W31W31W31W31W31W31W31W31W32W35W31W3DZ62Z61
  2Y1ICXn1Y1j.3g298S5S1S1S1Sr2zy4M0Uah4Y1010101010t1mi48Wz4124m11YY22bK3bK4yX21_.110105iZ21zX21jZ2
  7yBIb_1Daa24XY2N020c1nY22bK1bK1bK1bK2bK1bK1bK1bK1bK1bK1bK1bK1bK1bK1bK1bK50G010Oq91q9Iq97rf11qW24
  mk44mk4Orf11rf15mk46yg5Mrf112U8CqX2Y1qX2g5tW25ZX5Y1qk4Irk4a301012LP1Z.22yb13yb14iy29yb1d1td34rz2
  X2yb11yb11yb11yb12yb11yb11yb11yb11yb11yb11yb11yb11yb11yb11yb11yb1f2Xj2.301221k1ap41254k1vb2l5sj4
  q1Wf4b3vj41221k1bp412n2Y140503_39Y37_320F_31_32_320B0J0101010101_3101_340101w11010101010101010j1
  02lOJ0n1bl21275z5v91v9Iv98Xf2i1Zs51215z5x91x9Ix98Yf2i1es51255Cax2Y1ax2l5ZX5q1rk4b3043r4a31X12X13
  X11X13X11s53X15X12X15s53X1FX11s5523s51s53X11X11X13X11X1Gs59X11X11X13X19s51X11X11s51s55s55s51s53X
  11X11X11X11X11X11s51X11X11X11X12X11X11X11X11X11X11X11X11X11X11X11X1a10a1010101010103010102040303
  020201030101010101010102020101010201020102040B050101080u10D0431u11U2U3U1U3U1m53U5U2U5m53UFU1m58m
  51m53U1U1U3U1UGm59U1U1U3U9m51U1U1m51m55m55m51m53U1U1U1U1U1U1m51U1U1U1U2U1U1U1U1U1U1U1U1U1U1U1U12
  l1Bv1cb3_1iW38be3p30Ulv3Y1X91s9101010t1.c112HECgM10E01cn3Hb3Y1ap16020z10G010p1bX2d1.k4s3_k41216C
  te2Gte2Ite2g5tW2d1qk4s3012X3Z140503_3108v26030F_33_320B0J0101010101_3101_340101W4101010101010101
  0j102lOH020n1ns143658jf14oEGoECoEKkC43658jf14oEGoECoEKkC1254Slk3y5nc2d1jz4s3kz41214SXm4y5ed2d1Y.
  4s3Z.41214Suv3y5fd2d1l.4s3m.41214SXr3y5gd2d1u.4s3v.41214Sgy3y5hd2d1Z_4s3a_41214Sc.3y5id2d1d_4s3e
  _412e3Y140503_39wB6030F_33_320B0J0101010101_3101_340101W41010101010101010j102lOH020n1jd212g3Z140
  503_39iE603010E_33_320B0J0101010101_3101_340101W41010101010101010j102lOH020n1lv112e3Y140503_3108
  nB90A05_33_320B0J0101010101_3101_340101w11010101010101010j102lOJ0n1oe212d3X140503_39gC90F_3102_3
  20B0J0101010101_3101_340101w11010101010101010j102lOJ0n1wh212f3X140503_39gE9010E_33_320B0J0101010
  101_3101_340101w11010101010101010j102lOJ0n1ti212i3X140503_39mD90F_33_320B0J0101010101_3101_34010
  1w11010101010101010j102lO10I0n1x_112L8C0Y10g2sz18xk28zd1r20q1kv3Z1r91288C01yZ4F0p1_s2f4gX2d1hh55
  hh5n3012R7C0Y10X1hLf4hf25.X5Y10Igl41234u3kW38de3n4bw3Z1u912JD1ny2B0X1z330b1020X1eY2S0Vrj3y4_s21W
  t21iu21iv212Q4C0Y10l5.X5q1gl4125C1cy2C0Y20f1_u1x1ro3b1ao1d1050h2_s21Wt21iu21iv21264Deb4h6.c2d1Yk
  55Yk512W1F1sz2B0G0H_71020b1020X1zg2S0Vzo3y4_s21Wt21iu21iv212321py2t3zg212121xy2t3ih212321kz2t3ih
  212271jy2t3YW3x1ap3y4vu21wu21i.21oY312JD1_y2B0X1z330b1020X1eY2S0VWp3y4_s21Wt21iu21iv212321vz2t3_
  u112KD1qy2B0X1z330b1020X1eY2S0Vrj3y4_s21Wt21iu21iv212KD1Xz2B0X1b330b1020X1_u1S0Vzo3y4_s21Wt21iu2
  1iv212KD1lz2B0X1b330b1020X1_u1S0VYp3y4_s21Wt21iu21iv212KD1mz2B0X1_730b1020X1_u1S0Vzo3y4_s21Wt21i
  u21iv212KD1cz2B0X1b330b1020X1_u1S0Vro3y4_s21Wt21iu21iv215Z1AC0Fgu2Iz330b1020z10Hgu2p1sv1i1gW512L
  2e4Si5012F7D0EyBq10X4.98rX2d105th51223u3rg28ce3n4Zw31213u3lW38ee3n4cw31233m6WA8xY2i1ei51223u3pW3
  8fe3n4_w31223m6YA8se2i1zq51213m6aA8te2i1Yr51213m6cA8_e2i1wr51213m6eA8Wf2i1xr5125d11a.22wd13wd14s
  y21_.17rb31vy21sb3Pb_1Dvd34m.2H0f195ZZ32wd11wd11wd11wd12wd11wd11wd11wd11wd11wd11wd11wd11wd11wd11
  wd11wd1e2.h15r_44r_4O.h11.h15r_4J0108.h11225R01sa4q508wY2i1di51213Scb4y5pZ2i1li51213Sfc4y5qZ2i1m
  i51213Sle4y5Za2i1Yj51213Sai4y5od2i1cp51213Saj4y5qd2i1fp51213Sfj4y5rd2i1gp51213Skj4y5td2i1ip51213
  SZk4y5we2i1jr51213Sak4y5xe2i1kr51213Sbk4y5ye2i1lr51213Skk4y5ze2i1mr512O4R0g40p1tv1i1hW51214Bwe1r
  5jW2Ots1i101233S0y5nu1i1nj512m18C0X1b330b1020z10a2wW2i2lf41222u6YX2i1ch51242W6aX2Oxs11222u6eX2i1
  gh51222W6jX2Oft112Z1V1W.22wb13wb14fy29wb1d1rd34oz2w197wb11wb11wb11wb12wb11wb11wb11wb11wb11wb11wb
  11wb11wb11wb11wb11wb1a1go3b1gk2t301010104uh51222W6YY2Oit11212W6aY2Ojt11212W6bY2Okt11262u6jY2i1Xi
  51212u6tY2i1ai51212u6uY2i1bi51212u6vY2i1ci5128O1X.22xb13xb14gy29xb1d1sd34qz2X2xb11xb11xb11xb12xb
  11xb11xb11xb11xb11xb11xb11xb11xb11xb11xb11xb1d6fi512E1a9dm41232u6oZ2i1ki51212u6Wa2i1_i51212u6Xa2
  i1Wj51212u6Ya2i1Xj51214BYY1r5lo1Omo1i101212W6_o1OWp11212W6pp1Oqp11212W6zp1O.p11212W6Wq1OXq11212W
  6Yq1OZq112k29Bwe110X1z330b1020z10i1jW2Ohc21282u6ru1i1fm51222W6aX2Olc21222u6pc2i1Xk51222W6jX2O_c2
  1212W6YY2OXd21212W6aY2OYd21212W6bY2OZd21252u6cd2i1fk512Z2A1yJAbn1j39x1go3Dlo1Ohk2t301010101212W6
  _o1Olk21212W6pp1Oyk21212W6zp1O.k21212W6Wq1O_k21212W6Yq1OWl212y29Bwe110X1z330b1020z10i1jW2Osu1121
  2W6aX2Owu11212W6jX2Odv11212W6YY2Ofv11212W6aY2Ogv11212W6bY2Ohv112X39BYY110X1b330b1020z10i1lo1Ovd2
  1212W6_o1Ozd21212W6pp1Oge21212W6zp1Oie21212W6Wq1Oje21212W6Yq1Oke212c39BYY110X1b330b1020z10i1lo1O
  Xh21212W6_o1Obh21212W6pp1Ooh21212W6zp1Oqh21212W6Wq1Orh21212W6Yq1Osh212h39Bbn110X1_730b1020z10i1l
  o1O.h21212W6_o1OYi21212W6pp1Oli21212W6zp1Oni21212W6Wq1Ooi21212W6Yq1Opi212o14BYY1r5lo1OY_1i201212
  W6_o1Oc_11212W6pp1Op_11212W6zp1Or_11212W6Wq1Os_11212W6Yq1Ot_112f22u6ns1i101211u6qs112X1Y11c.22_b
  13_b14ty21X98_b1d1wd34s.2_1aZ32_b11_b11_b11_b12_b11_b11_b11_b11_b11_b11_b11_b11_b11_b11_b11_b1n1
  0Nci11qm24dg54dg5Oci11ci15dg5Sci11221u6ss11211u6iW21211u6us112h1Y11yz22yR3yR4Zf21X98yRQ_7Dok24zy
  2_1qX32yR1yR1yR1yR2yR1yR1yR1yR1yR1yR1yR1yR1yR1yR1yR1yRf2xv14fv34fv3OYf11Yf15fv360MYf1125X11wy22u
  b13ub14Zy21mS8ub1QeZ1Dpd34px2_1f_22ub11ub11ub11ub12ub11ub11ub11ub11ub11ub11ub11ub11ub11ub11ub11u
  b1e2kb15up34up3Oed11ed15up3Sed11231u6vs11211u6ws11211u6ys112U3Bw3r50OWj21221u6.s11211u6dX21211u6
  _s11211u6Wt11211u6Xt11211u6Yt11211u6Zt11211u6at11211u6bt11211u6ct11211u6dt11211u6et11211u6gt1121
  1u6dw112d13Bw3r50OXj21221u6ew11211u6fw11211u6gw11211u6qX212a22u6xX2i101221u6lt11211u6mt11231u6xv
  112Z11q3Zb21221u6of21211u6pf21251u6tt11221u6hf212k23Bs8r50Orf21231u6.w11231u6fo11211u6no11211u6q
  o11211u6.o11211u6Xp11211u6Zp11211u6.r11211u6ap11211u6bp11211u6cp11211u6dp11211u6ep11211u6fp11211
  u6gp11211u6hp11211u6kp11211u6lp11211u6rp11211u6ma21211u6cq11211u6dq11212q3Yw1a3ao11221u6xq11211u
  6ao11211u6bo112y23Bs8r50Of.112h23BX9r50Oyj212a34BX9f3vm2i20Obl21251q3vm21211q3xm21231q3xm21221q3
  ip312e2V1d.22Wc13Wc14yy29Wc1d1xd34u.2_1bZ32Wc11Wc11Wc11Wc12Wc11Wc11Wc11Wc11Wc11Wc11Wc11Wc11Wc11W
  c11Wc11Wc1e2di15sj54sj5Odi11di15sj5Sdi11281u6ov112a11u6ic21211u6jc21211u6kc21211u6mc212b21u6fk21
  221u6oc21211u6qc21211u6rc21211u6sc21211u6tc21211u6uc21211u6vc21211u6wc21211u6xc21211u6yc21211u6z
  c21211u6Wd212Z21u6gk21221u6ad21211u6bd212G1u6al21222q3Zb2a3jd21231u6dd212R2q3s1a3el21211u6ik2121
  1u6jk21211u6kk21211u6mk21211u6nk21211u6ok21211u6pk21211u6qk21211u6rk21211u6sk21211u6tk21211u6uk2
  1211u6vk21211u6wk21211u6xk21211u6zk21211u6Xl21211u6Yl212k11q3Yw11221u6Zl21211u6bl21211u6cl212m1V
  1e.22Xc13Xc14Wz29Xc1d1yd34w.2_1cZ32Xc11Xc11Xc11Xc12Xc11Xc11Xc11Xc11Xc11Xc11Xc11Xc11Xc11Xc11Xc11X
  c1e2ei15pp54pp5Oei11ei15pp5Sei112m11u6tu11211u6uu11211u6vu11211u6xu112V1u6fl21221u6yu11211u6zu11
  211u6.u11211u6_u11211u6Wv11211u6Xv11211u6Yv11211u6Zv11211u6av11211u6bv11211u6cv11211u6ev11211u6i
  v11211u6jv11212q3Zb2a3lv11221u6kv112i21u6wi212I1u6wd21211u6xd21211u6yd21211u6.d21211u6_d21211u6W
  e21211u6Xe21211u6Ye21211u6Ze21211u6ae21211u6be21211u6ce21211u6de21211u6ee21211u6fe21211u6he21211
  u6le21211u6me21212q3Yw1a3oe21221u6ne21211u6oe21211u6pe212j1V1f.22Yc13Yc14Yz29Yc1d1zd34x.2_1dZ32Y
  c11Yc11Yc11Yc12Yc11Yc11Yc11Yc11Yc11Yc11Yc11Yc11Yc11Yc11Yc11Yc1e2fi15xp54xp5Ofi11fi15xp5Sfi11221u
  6gl212i21u6Yh21211u6Zh21211u6ah21211u6ch21211u6dh21211u6eh21211u6fh21211u6gh21211u6hh21211u6ih21
  211u6jh21211u6kh21211u6lh21211u6mh21211u6nh21211u6ph21211u6th21211u6uh21212q3Yw1a3wh21221u6vh212
  11u6wh21211u6xh212OV1g.22Zc13Zc14Zz29Zc1d1.d34y.2_1eZ32Zc11Zc11Zc11Zc12Zc11Zc11Zc11Zc11Zc11Zc11Z
  c11Zc11Zc11Zc11Zc11Zc1e2gi15Zq54Zq5Ogi11gi15Zq5Sgi112O1u6hl212n11u6_h21211u6Wi21211u6Xi21211u6Zi
  21211u6ai21211u6bi21211u6ci21211u6di21211u6ei21211u6fi21211u6gi21211u6hi21211u6ii21211u6ji21211u
  6ki21211u6mi21211u6qi21211u6ri21212q3Yw1a3ti21221u6si21211u6ti21211u6ui212OV1h.22ac13ac14az29ac1
  d1_d34z.2_1fZ32ac11ac11ac11ac12ac11ac11ac11ac11ac11ac11ac11ac11ac11ac11ac11ac1e2hi15hq54hq5Ohi11
  hi15hq5Shi112O1u6il212t31u6jd21211u6kd21211u6md212q82u6._1i201211u6Z_11211u6a_11211u6b_11211u6d_
  11211u6e_11211u6f_11211u6g_11211u6h_11211u6i_11211u6j_11211u6k_11211u6l_11211u6m_11211u6n_11211u
  6o_11211u6q_11211u6u_11211u6v_11212q3Yw1a3x_11221u6w_11211u6x_11211u6y_112SV1j.22cc13cc14dz29cc1
  d1Xe34_.2_1hZ32cc11cc11cc11cc12cc11cc11cc11cc11cc11cc11cc11cc11cc11cc11cc11cc1e2ji15ir54ir5Oji11
  ji15ir5Sji112S1u6ll212c31u6lv11211u6mv11231u6re212w11u6zh2126V1i.22bc13bc14bz29bc1d1We34..2_1gZ3
  2bc11bc11bc11bc12bc11bc11bc11bc11bc11bc11bc11bc11bc11bc11bc11bc1e2ii15rq54rq5Oii11ii15rq5Sii1123
  1u6kl2122V1l.22dc13dc14ez29dc1d1Ye34W_2_1iZ32dc11dc11dc11dc12dc11dc11dc11dc11dc11dc11dc11dc11dc1
  1dc11dc11dc1e2ki15ur54ur5Oki11ki15ur5Ski11221u6ml244_BX310201jv11X_11pw11qw11mZ21ov11xk11ij1161d
  Z1104Wd11Xd11_c1125yP161010BWM40165630103hd11id11cd11_B2010G09212123uP86101010161656501030101010
  10101L101010101xL1sk1101010101.t11010101010101ed1265fd11gd1D69ZW51xe43lOBkO1kOj1kO3kO2kORwd1IkO9
  kO1kO1kO1mO2kO2kO2kO3kOy1xu35fk41gk44412DbZ1cBZz44411DcZ1243e21pZ22xI1eq1101xI101rO121xI10701xI1
  06hd2Jcn1523t11u1301xI1lx13xIVea282Fc91c9901xI1xI1fv11fv12xI1xI1xI1xI1xI1xI1xI1xI1xI1xI1xI1xI102
  25010M01030B010j1030202bg5Jgq3604_p37gq31gq3609010101020202030l1XW5D02412DbZ1cBZz42411DcZ1246C42
  101im11jm11rO1220.3zt1Ddp1O0103rO2412DbZ1cBZz42411DcZ144788lZ250D6Evo1r12c10m701044155sn35Wy1Ucp
  1y2vx15Zr244225fo3Z1kp1249U14243444947yPW1gV1034VuPY141Zk11gD1gD241414141ak114141414141414Z30T0b
  1fq2j102412DbZ1cBZz42411DcZ12433W4484i50241442s14d24142422DbZ1cBZz42422DbZ1cBZz42421DcZ12421DcZ1
  24D88ZS50D6Evo1r12c10m701012lDb1404s4106s46c57c520Ac56c52c520Ac510J0101010101c5101c540101c510101
  01010101010Uc5F02s4H02012jDb1404t4106t46d57d520Ad56d52d520Ad510J0101010101d5101d540101d510101010
  10101010Ud5F02t4H0202434AWy1Ucp1y2vx15ub22441e1kp1123w20a61uA2uA2uA1uA1uA1uA2uA1a61a61a61uA101uA
  2uA1uA1uA1a61uA1uA1uA1uA1a61a61a61uA3uA1uA1uA1uA1uA1uA1uA1uA1a61uA3uA1a61a62a65a61a63uA1uA1uA1a6
  2uA1uAMa62a61uA1uA1uA3a69a61uA1uA1a61a65a65a61a63uA1uA1uA1uA1uA1uA1a61uA1uA1uA1uA1a61uA1uA1uA1uA
  1uA1uA1uA1uA1uA1uA1uA1uA1uA4uA3uA1uA121v20e81yA2yA2yA1yA1yA1yA2yA1e81e81e81yA2yA2yA1yA1yA1e81yA1
  yA1yA1yA1e81e81e81yA3yA1yA1yA1yA1yA1yA1yA1yA1e81yA3yA1e81e82e85e81e83yA1yA1yA1e82yA1yAMe82e81yA1
  yA1yA3e89e81yA1yA1e81e85e85e81e83yA1yA1yA1yA1yA1yA1e81yA1yA1yA1yA1e81yA1yA1yA1yA1yA1yA1yA1yA1yA1
  yA1yA1yA1yA4yA3yA1yA121v20f81zA2zA2zA1zA1zA1zA2zA1f81f81f81zA2zA2zA1zA1zA1f81zA1zA1zA1zA1f81f81f
  81zA3zA1zA1zA1zA1zA1zA1zA1zA1f81zA3zA1f81f82f85f81f83zA1zA1zA1f82zA1zAMf82f81zA1zA1zA3f89f81zA1z
  A1f81f85f85f81f83zA1zA1zA1zA1zA1zA1f81zA1zA1zA1zA1f81zA1zA1zA1zA1zA1zA1zA1zA1zA1zA1zA1zA1zA4zA3z
  A1zA121v20g81.A2.A2.A1.A1.A1.A2.A1g81g81g81.A2.A2.A1.A1.A1g81.A1.A1.A1.A1g81g81g81.A3.A1.A1.A1.A
  1.A1.A1.A1.A1g81.A3.A1g81g82g85g81g83.A1.A1.A1g82.A1.AMg82g81.A1.A1.A3g89g81.A1.A1g81g85g85g81g8
  3.A1.A1.A1.A1.A1.A1g81.A1.A1.A1.A1g81.A1.A1.A1.A1.A1.A1.A1.A1.A1.A1.A1.A1.A4.A3.A1.A121v20h81_A2
  _A2_A1_A1_A1_A2_A1h81h81h81_A2_A2_A1_A1_A1h81_A1_A1_A1_A1h81h81h81_A3_A1_A1_A1_A1_A1_A1_A1_A1h81
  _A3_A1h81h82h85h81h83_A1_A1_A1h82_A1_AMh82h81_A1_A1_A3h89h81_A1_A1h81h85h85h81h83_A1_A1_A1_A1_A1
  _A1h81_A1_A1_A1_A1h81_A1_A1_A1_A1_A1_A1_A1_A1_A1_A1_A1_A1_A4_A3_A1_A24FW11X12X11X12X14X19X1Qs58s
  51s54X14X1s1s51s5AX11X11X11X12X11X11X11X11X11X11X11X11X11X11X11X1s30H010241T1U2U1U2U4U9UQm58m51m
  54U4Us1m51m5AU1U1U1U2U1U1U1U1U1U1U1U1U1U1U1U24848ta140S0KeX12432DbZ1cBZz42432DbZ1cBZz4243V6bc21c
  c23Yp18_o11Wp11.o1b1hp11jp11ep1f2to15uq27ip16ft21fp11gp1QhZ4BeZ41eZ4j1eZ43eZ42eZ4j1eZ49eZ41eZ41e
  Z41gZ42eZ42eZ42eZ43eZ4y1ne42431DcZ12431DcZ12463AWy1w3vx15ub2232m11nx12p8122p82_h12p82hK1hK6p87bN
  101hKChK561hK4630104p81YS1nO2p8VYNN010Ap81p81p81p81yX11p81p81p81p81p81p81p81p81p81p81p81p8M0j2qj
  5T_p3o2XW5I010231V1mk12Z23Z22jf12Z22oE1oE6Z29oECoE6oECZ22kC2Z2X2Z21Z21Z21Z22Z21Z21Z21Z21Z21Z21Z2
  1Z21Z21Z21Z21Z2Z3op523178dK4vR1vRFvRCvR6vRr2z.123388Yb14616E616C666r2023118dK241W11mx12o83o82ZS2
  o8306o890Cvo160Co81lx11_B2o8X2o81o81o81o82o81o81o81o81o81o81o81o81o81o81o81o8M6j2bg52413D6R0Jhv1
  2346Cii11ii1E010CvR6ii124218dK2442e1cp1JkZ2242S1ek22dM3dM2kt12dM306dMC2RdM2un12dMX2dM1dM1dM1dM2d
  M1dM1dM1dM1dM1dM1dM1dM1dM1dM1dM1dMZ3tr524118dK2431e1kp123A6D0F02mo11fr19060237U1qv12.53.52nr12.5
  2oE106.5Lus16hKC.52bV2.5X2.51.51.51.52.51.51.51.51.51.51.51.51.51.51.51.5Z3Yq5431V1dk22cM3cM2ot1
  2cM16167cML060CcM2xn12cMX2cM1cM1cM1cM2cM1cM1cM1cM1cM1cM1cM1cM1cM1cM1cM1cM62z2hr543118dK120q20hg1
  1zG2zG2zG1zG1zG3zG1hg12hg11zG2zG2zG1zG1zG1hg11zG1zG1zG1zG1hg11hg12zG3zG1zG1zG1zG1zG1zG1zG1zG2zG1
  Wc31vj21zG1hg18hg11hg13zG1zG1zG3zG1zGPzG1zG1zG3hg19hg11zG1zG1hg11hg1411hg15hg11hg13zG1zG1zG1zG1z
  G1zG1hg11zG1zG1zG1zG2zG1zG1zG1zG1zG1zG1zG1zG1zG1zG1zG1zG1zG7zG1zGG1j1bN1ZP24DS1ox12q83q82ta12q82
  07q8L0Iq82eX12q8X2q81q81q81q82q81q81q81q81q81q81q81q81q81q81q81q8Z3qq515oEV4050Cc290CT1T5020B0J0
  1010101010101040101c21010101010101010j10Juj42015sEV4050Cz290Cr11r15020B0J01010101010101040101z21
  010101010101010j10Jec22023738dj140Y162311e1_W22391e102461x1hv124118dK234T1ak22aM3aM2lt12aM366aML
  660CaM2vn12aMX2aM1aM1aM1aM2aM1aM1aM1aM1aM1aM1aM1aM1aM1aM1aM1aMZ3wp523118dK2441x1kZ22411x1qb312B1
  b5012wEV4050Cf590Cf21f25020B0J01010101010101040101f51010101010101010j10J02015zET4050CY690I020B0J
  01010101010101040101Y61010101010101010j10IY63015xET4050CZ690I020B0J01010101010101040101Z61010101
  010101010j10IZ6301544g1010v3c21c215F4g1010v3z21xj41554g1010v3f51f51531b5zj423G1e1023118dK231S1bk
  22bM3bM2nt12bM9bMC2F0CbM2wn12bMX2bM1bM1bM1bM2bM1bM1bM1bM1bM1bM1bM1bM1bM1bM1bM1bMZ3gq523118dK23e1
  5C010F0I0r202313Umo11fr19023228d.1W1012Sn20ig11.G2.G2.G1.G1.G3.G1ig12ig11.G2.G2.G1.G1.G1ig11.G1.
  G1.G1.G1ig11ig12.G3.G1.G1.G1.G1.G1.G1.G1.G2.G102.G1ig18ig11ig13.G1.G1.G3.G1.GP.G1.G1.G3ig19ig11.
  G1.G1ig11ig15ig15ig11ig13.G1.G1.G1.G1.G1.G1ig11.G1.G1.G1.G2.G1.G1.G1.G1.G1.G1.G1.G1.G1.G1.G1.G1.
  G7.G1.Gz101yP12iGW140502vO109x190I02zc3B0J01010101010101040101x11010101010101010j10J020PZS1211o1
  .c323418e.123118g.123118dK23118j.123118k.123118l.123118f.123118m.123118h.1120n20ze11gH2gH2gH1gH1
  gH3gH1ze12ze11gH2gH2gH1gH1gH1ze11gH1gH1gH1gH1ze11ze11ze11gH3gH1gH1gH1gH1gH1gH1gH1gH2gH3gH1ze18ze
  11ze13gH1gH1gH3gH1gHPgH1gH1gH3ze19ze11gH1gH1ze11ze1411ze15ze11ze13gH1gH1gH1gH1gH1gH1ze11gH1gH1gH
  1gH2gH1gH1gH1gH1gH1gH1gH1gH1gH1gH1gH1gH1gH7gH1gHG1121m20od11zI2zI2zI1zI1zI3zI1od12od11zI2zI2zI1z
  I1zI1od11ub31zI1zI1zI1od11od1101zI3zI1zI1zI1zI1zI1zI1zI1zI2zI3zI1od18od11od13zI1zI1zI3zI1zIPzI1z
  I1zI3od19od11zI1zI1od11od15od15od11od13zI1zI1zI1zI1zI1zI1od11zI1zI1zI1zI2zI1zI1zI1zI1zI1zI1zI1zI
  1zI1zI1zI1zI1zI7zI1zIf1uP62mH.11nh13j540103ph49090Gvt32020A0103010101010101010101010101010101Yi1
  10101010101.K101_K1n21n21010101Z110101010101010104010PWLF0L0h3eY5k1_q31nl41nl41nl41nl41nl415jGT4
  050309mM90I020B0J01010101010101040101mM1010101010101010j10L0151l20hi11xG2xG2xG1xG1xG3xG1hi12hi11
  xG2xG2xG1xG1xG1hi11xG1xG1xG1xG1hi11_u22xG3xG1xG1xG1xG1xG1xG1xG1xG2xG3xG1hi18hi11hi13xG1xG1xG3xG1
  xGPxG1xG1xG3hi19hi11xG1xG1hi11hi15hi15hi11hi13xG1xG1xG1xG1xG1xG1hi11xG1xG1xG1xG2xG1xG1xG1xG1xG1x
  G1xG1xG1xG1xG1xG1xG1xG7xG1xGD_u2121m20xg11lF2lF2lF1lF1lF3lF1xg12xg11lF2lF2lF1lF1lF1xg11lF1lF1lF1
  lF1xg11xg12lF3lF1lF1lF1lF1lF1lF1lF1lF2lF2lF1lF1xg18xg11xg13lF1lF1lF3lF1lFPlF1lF1lF3xg19xg11lF1lF
  1xg11xg15xg15xg11xg13lF1lF1lF1lF1lF1lF1xg11lF1lF1lF1lF2lF1lF1lF1lF1lF1lF1lF1lF1lF1lF1lF1lF1lF7lF
  1lFD015jGT4050309nM90I020B0J01010101010101040101nM1010101010101010j10L015jGT4050309oM90I020B0J01
  010101010101040101oM1010101010101010j10L015jGT4050309xN90I020B0J01010101010101040101xN1010101010
  101010j10L015iGT4050309pM90I020B0J01010101010101040101pM1010101010101010j10L015iGT4050309qM90I02
  0B0J01010101010101040101qM1010101010101010j10L015iGT4050309yN90I020B0J01010101010101040101yN1010
  101010101010j10L015iGT4050309zN90I020B0J01010101010101040101zN1010101010101010j10L015iGT4050309r
  M90I020B0J01010101010101040101rM1010101010101010j10L015iGT4050309sM90I020B0J01010101010101040101
  sM1010101010101010j10L015iGT4050309.N90I020B0J01010101010101040101.N1010101010101010j10L015iGT40
  50309tM90I020B0J01010101010101040101tM1010101010101010j10L012Cl20yg11mF2mF2mF1mF1mF3mF1yg12yg11m
  F2mF2mF1mF1mF1yg11mF1mF1mF1mF1yg11yg12mF3mF1mF1mF1mF1mF1mF1mF1mF2mF2mF1mF1yg18yg11yg13mF1mF1mF3m
  F1mFPmF1mF1mF3yg19yg11mF1mF1yg11yg15yg15yg11yg13mF1mF1mF1mF1mF1mF1yg11mF1mF1mF1mF2mF1mF1mF1mF1mF
  1mF1mF1mF1mF1mF1mF1mF1mF7mF1mF121l20zg11nF2nF2nF1nF1nF3nF1zg12zg11nF2nF2nF1nF1nF1zg11nF1nF1nF1nF
  1zg11zg12nF3nF1nF1nF1nF1nF1nF1nF1nF2nF2nF1nF1zg18zg11zg13nF1nF1nF3nF1nFPnF1nF1nF3zg19zg11nF1nF1z
  g11zg15zg15zg11zg13nF1nF1nF1nF1nF1nF1zg11nF1nF1nF1nF2nF1nF1nF1nF1nF1nF1nF1nF1nF1nF1nF1nF1nF7nF1n
  F12T1o1012zGT4050309d690I0D0J01010101010101040101d61010101010101010j10J02012zGT4050309e690I0D0J0
  1010101010101040101e61010101010101010j10J020156l20_81y42y42y41y41y43y41_82_81y42y42y41y41y41_81y
  41y41y41y41_81_82y43y41y41y41y41y41y41y41y42y43y41_88_81_83y41y41y43y41y4Py41y41y43_89_81y41y41_
  81_85_85_81_83y41y41y41y41y41y41_81y41y41y41y42y41y41y41y41y41y41y41y41y41y41y41y41y47y41y4D_815
  1l20W91z42z42z41z41z43z41W92W91z42z42z41z41z41W91z41z41z41z41W91W92z43z41z41z41z41z41z41z41z42z4
  3z41W98W91W93z41z41z43z41z4Pz41z41z43W99W91z41z41W91W95W95W91W93z41z41z41z41z41z41W91z41z41z41z4
  2z41z41z41z41z41z41z41z41z41z41z41z41z47z41z4DW962M7C.h4Y1un3p8oz41oz41oz41oz41oz46217Cbi4Y1Xy3p
  8b.41b.41b.41b.41b.46217Cki4Y1uk3p8o.41o.41o.41o.41o.46217Cti4Y1fz3p8w.41w.41w.41w.41w.4125l20wf
  11dG2dG2dG1dG1dG3dG1wf12wf11dG2dG2dG1dG1dG1wf11dG1dG1dG1dG1wf11wf12dG3dG1dG1dG1dG1dG1dG1dG1dG2dG
  3dG1wf18wf11wf13dG1dG1dG3dG1dGPdG1dG1dG3wf19wf11dG1dG1wf11wf15wf15wf11wf13dG1dG1dG1dG1dG1dG1wf11
  dG1dG1dG1dG2dG1dG1dG1dG1dG1dG1dG1dG1dG1dG1dG1dG1dG7dG1dGD012gHU4050309nE90I020B0J010101010101010
  40101nE1010101010101010j10J020121k20fZ11vF2vF2vF1vF1vF3vF1fZ12fZ11vF2vF2vF1vF1vF1fZ11vF1vF1vF1vF
  1fZ11fZ12vF3vF1vF1vF1vF1vF1vF1vF1vF2vF3vF1fZ18fZ11fZ13vF1vF1vF3vF1vFPvF1vF1vF3fZ19fZ11vF1vF1fZ11
  fZ15fZ15fZ11fZ13vF1vF1vF1vF1vF1vF1fZ11vF1vF1vF1vF2vF1vF1vF1vF1vF1vF1vF1vF1vF1vF1vF1vF1vF7vF1vF12
  20121k20mg11YH2YH2YH1YH1YH3YH1mg12mg11YH2YH2YH1YH1YH1mg11YH1YH1YH1YH1mg11mg12YH3YH1YH1YH1YH1YH1Y
  H1YH1YH2YH3YH1mg18mg11mg13YH1YH1YH3YH1YHPYH1YH1YH3mg19mg11YH1YH1mg11mg15mg15mg11mg13YH1YH1YH1YH1
  YH1YH1mg11YH1YH1YH1YH2YH1YH1YH1YH1YH1YH1YH1YH1YH1YH1YH1YH1YH7YH1YH121k20og11aH2aH2aH1aH1aH3aH1og
  12og11aH2aH2aH1aH1aH1og11aH1aH1aH1aH1og11og12aH3aH1aH1aH1aH1aH1aH1aH1aH2aH3aH1og18og11og13aH1aH1
  aH3aH1aHPaH1aH1aH3og19og11aH1aH1og11og15og15og11og13aH1aH1aH1aH1aH1aH1og11aH1aH1aH1aH2aH1aH1aH1a
  H1aH1aH1aH1aH1aH1aH1aH1aH1aH7aH1aH121k20qg11cH2cH2cH1cH1cH3cH1qg12qg11cH2cH2cH1cH1cH1qg11cH1cH1c
  H1cH1qg11qg12cH3cH1cH1cH1cH1cH1cH1cH1cH2cH3cH1qg18qg11qg13cH1cH1cH3cH1cHPcH1cH1cH3qg19qg11cH1cH1
  qg11qg15qg15qg11qg13cH1cH1cH1cH1cH1cH1qg11cH1cH1cH1cH2cH1cH1cH1cH1cH1cH1cH1cH1cH1cH1cH1cH1cH7cH1
  cH121k20rg11dH2dH2dH1dH1dH3dH1rg12rg11dH2dH2dH1dH1dH1rg11dH1dH1dH1dH1rg11rg12dH3dH1dH1dH1dH1dH1d
  H1dH1dH2dH3dH1rg18rg11rg13dH1dH1dH3dH1dHPdH1dH1dH3rg19rg11dH1dH1rg11rg15rg15rg11rg13dH1dH1dH1dH1
  dH1dH1rg11dH1dH1dH1dH2dH1dH1dH1dH1dH1dH1dH1dH1dH1dH1dH1dH1dH7dH1dH121k20vZ11yH2yH2yH1yH1yH3yH1vZ
  12vZ11yH2yH2yH1yH1yH1vZ11yH1yH1yH1yH1vZ11vZ12yH3yH1yH1yH1yH1yH1yH1yH1yH2yH3yH1vZ18vZ11vZ13yH1yH1
  yH3yH1yHPyH1yH1yH3vZ19vZ11yH1yH1vZ11vZ15vZ15vZ11vZ13yH1yH1yH1yH1yH1yH1vZ11yH1yH1yH1yH2yH1yH1yH1y
  H1yH1yH1yH1yH1yH1yH1yH1yH1yH7yH1yH121k20aa11dI2dI2dI1dI1dI3dI1aa12aa11dI2dI2dI1dI1dI1aa11dI1dI1d
  I1dI1aa11aa12dI3dI1dI1dI1dI1dI1dI1dI1dI2dI3dI1aa18aa11aa13dI1dI1dI3dI1dIPdI1dI1dI3aa19aa11dI1dI1
  aa11aa15aa15aa11aa13dI1dI1dI1dI1dI1dI1aa11dI1dI1dI1dI2dI1dI1dI1dI1dI1dI1dI1dI1dI1dI1dI1dI1dI7dI1
  dI121k20xf11eG2eG2eG1eG1eG3eG1xf12xf11eG2eG2eG1eG1eG1xf11eG1eG1eG1eG1xf11xf12eG3eG1eG1eG1eG1eG1e
  G1eG1eG2eG3eG1xf18xf11xf13eG1eG1eG3eG1eGPeG1eG1eG3xf19xf11eG1eG1xf11xf15xf15xf11xf13eG1eG1eG1eG1
  eG1eG1xf11eG1eG1eG1eG2eG1eG1eG1eG1eG1eG1eG1eG1eG1eG1eG1eG1eG7eG1eG121k20hZ11xF2xF2xF1xF1xF3xF1hZ
  12hZ11xF2xF2xF1xF1xF1hZ11xF1xF1xF1xF1hZ11hZ12xF3xF1xF1xF1xF1xF1xF1xF1xF2xF3xF1hZ18hZ11hZ13xF1xF1
  xF3xF1xFPxF1xF1xF3hZ19hZ11xF1xF1hZ11hZ15hZ15hZ11hZ13xF1xF1xF1xF1xF1xF1hZ11xF1xF1xF1xF2xF1xF1xF1x
  F1xF1xF1xF1xF1xF1xF1xF1xF1xF7xF1xF121k20gZ11wF2wF2wF1wF1wF3wF1gZ12gZ11wF2wF2wF1wF1wF1gZ11wF1wF1w
  F1wF1gZ11gZ12wF3wF1wF1wF1wF1wF1wF1wF1wF2wF3wF1gZ18gZ11gZ13wF1wF1wF3wF1wFPwF1wF1wF3gZ19gZ11wF1wF1
  gZ11gZ15gZ15gZ11gZ13wF1wF1wF1wF1wF1wF1gZ11wF1wF1wF1wF2wF1wF1wF1wF1wF1wF1wF1wF1wF1wF1wF1wF1wF7wF1
  wF121k20ug11hH2hH2hH1hH1hH3hH1ug12ug11hH2hH2hH1hH1hH1ug11hH1hH1hH1hH1ug11ug12hH3hH1hH1hH1hH1hH1h
  H1hH1hH2hH3hH1ug18ug11ug13hH1hH1hH3hH1hHPhH1hH1hH3ug19ug11hH1hH1ug11ug15ug15ug11ug13hH1hH1hH1hH1
  hH1hH1ug11hH1hH1hH1hH2hH1hH1hH1hH1hH1hH1hH1hH1hH1hH1hH1hH1hH7hH1hH121k20qf11XG2XG2XG1XG1XG3XG1qf
  12qf11XG2XG2XG1XG1XG1qf11XG1XG1XG1XG1qf11qf12XG3XG1XG1XG1XG1XG1XG1XG1XG2XG3XG1qf18qf11qf13XG1XG1
  XG3XG1XGPXG1XG1XG3qf19qf11XG1XG1qf11qf15qf15qf11qf13XG1XG1XG1XG1XG1XG1qf11XG1XG1XG1XG2XG1XG1XG1X
  G1XG1XG1XG1XG1XG1XG1XG1XG1XG7XG1XG121k20pf11WG2WG2WG1WG1WG3WG1pf12pf11WG2WG2WG1WG1WG1pf11WG1WG1W
  G1WG1pf11pf12WG3WG1WG1WG1WG1WG1WG1WG1WG2WG3WG1pf18pf11pf13WG1WG1WG3WG1WGPWG1WG1WG3pf19pf11WG1WG1
  pf11pf15pf15pf11pf13WG1WG1WG1WG1WG1WG1pf11WG1WG1WG1WG2WG1WG1WG1WG1WG1WG1WG1WG1WG1WG1WG1WG1WG7WG1
  WG121k20lg11XH2XH2XH1XH1XH3XH1lg12lg11XH2XH2XH1XH1XH1lg11XH1XH1XH1XH1lg11lg12XH3XH1XH1XH1XH1XH1X
  H1XH1XH2XH3XH1lg18lg11lg13XH1XH1XH3XH1XHPXH1XH1XH3lg19lg11XH1XH1lg11lg15lg15lg11lg13XH1XH1XH1XH1
  XH1XH1lg11XH1XH1XH1XH2XH1XH1XH1XH1XH1XH1XH1XH1XH1XH1XH1XH1XH7XH1XH121k20mZ11fG2fG2fG1fG1fG3fG1mZ
  12mZ11fG2fG2fG1fG1fG1mZ11fG1fG1fG1fG1mZ11mZ12fG3fG1fG1fG1fG1fG1fG1fG1fG2fG3fG1mZ18mZ11mZ13fG1fG1
  fG3fG1fGPfG1fG1fG3mZ19mZ11fG1fG1mZ11mZ15mZ15mZ11mZ13fG1fG1fG1fG1fG1fG1mZ11fG1fG1fG1fG2fG1fG1fG1f
  G1fG1fG1fG1fG1fG1fG1fG1fG1fG7fG1fG121k20oZ11hG2hG2hG1hG1hG3hG1oZ12oZ11hG2hG2hG1hG1hG1oZ11hG1hG1h
  G1hG1oZ11oZ12hG3hG1hG1hG1hG1hG1hG1hG1hG2hG3hG1oZ18oZ11oZ13hG1hG1hG3hG1hGPhG1hG1hG3oZ19oZ11hG1hG1
  oZ11oZ15oZ15oZ11oZ13hG1hG1hG1hG1hG1hG1oZ11hG1hG1hG1hG2hG1hG1hG1hG1hG1hG1hG1hG1hG1hG1hG1hG1hG7hG1
  hG121k20.f11lG2lG2lG1lG1lG3lG1.f12.f11lG2lG2lG1lG1lG1.f11lG1lG1lG1lG1.f11.f12lG3lG1lG1lG1lG1lG1l
  G1lG1lG2lG3lG1.f18.f11.f13lG1lG1lG3lG1lGPlG1lG1lG3.f19.f11lG1lG1.f11.f15.f15.f11.f13lG1lG1lG1lG1
  lG1lG1.f11lG1lG1lG1lG2lG1lG1lG1lG1lG1lG1lG1lG1lG1lG1lG1lG1lG7lG1lG121k20dg11uG2uG2uG1uG1uG3uG1dg
  12dg11uG2uG2uG1uG1uG1dg11uG1uG1uG1uG1dg11dg12uG3uG1uG1uG1uG1uG1uG1uG1uG2uG3uG1dg18dg11dg13uG1uG1
  uG3uG1uGPuG1uG1uG3dg19dg11uG1uG1dg11dg15dg15dg11dg13uG1uG1uG1uG1uG1uG1dg11uG1uG1uG1uG2uG1uG1uG1u
  G1uG1uG1uG1uG1uG1uG1uG1uG1uG7uG1uG121k20fg11wG2wG2wG1wG1wG3wG1fg12fg11wG2wG2wG1wG1wG1fg11wG1wG1w
  G1wG1fg11fg12wG3wG1wG1wG1wG1wG1wG1wG1wG2wG3wG1fg18fg11fg13wG1wG1wG3wG1wGPwG1wG1wG3fg19fg11wG1wG1
  fg11fg15fg15fg11fg13wG1wG1wG1wG1wG1wG1fg11wG1wG1wG1wG2wG1wG1wG1wG1wG1wG1wG1wG1wG1wG1wG1wG1wG7wG1
  wG121k20jg11_G2_G2_G1_G1_G3_G1jg12jg11_G2_G2_G1_G1_G1jg11_G1_G1_G1_G1jg11jg12_G3_G1_G1_G1_G1_G1_
  G1_G1_G2_G3_G1jg18jg11jg13_G1_G1_G3_G1_GP_G1_G1_G3jg19jg11_G1_G1jg11jg15jg15jg11jg13_G1_G1_G1_G1
  _G1_G1jg11_G1_G1_G1_G2_G1_G1_G1_G1_G1_G1_G1_G1_G1_G1_G1_G1_G7_G1_G121k20ng11ZH2ZH2ZH1ZH1ZH3ZH1ng
  12ng11ZH2ZH2ZH1ZH1ZH1ng11ZH1ZH1ZH1ZH1ng11ng12ZH3ZH1ZH1ZH1ZH1ZH1ZH1ZH1ZH2ZH3ZH1ng18ng11ng13ZH1ZH1
  ZH3ZH1ZHPZH1ZH1ZH3ng19ng11ZH1ZH1ng11ng15ng15ng11ng13ZH1ZH1ZH1ZH1ZH1ZH1ng11ZH1ZH1ZH1ZH2ZH1ZH1ZH1Z
  H1ZH1ZH1ZH1ZH1ZH1ZH1ZH1ZH1ZH7ZH1ZH121k20pg11bH2bH2bH1bH1bH3bH1pg12pg11bH2bH2bH1bH1bH1pg11bH1bH1b
  H1bH1pg11pg12bH3bH1bH1bH1bH1bH1bH1bH1bH2bH3bH1pg18pg11pg13bH1bH1bH3bH1bHPbH1bH1bH3pg19pg11bH1bH1
  pg11pg15pg15pg11pg13bH1bH1bH1bH1bH1bH1pg11bH1bH1bH1bH2bH1bH1bH1bH1bH1bH1bH1bH1bH1bH1bH1bH1bH7bH1
  bH121k20sg11eH2eH2eH1eH1eH3eH1sg12sg11eH2eH2eH1eH1eH1sg11eH1eH1eH1eH1sg11sg12eH3eH1eH1eH1eH1eH1e
  H1eH1eH2eH3eH1sg18sg11sg13eH1eH1eH3eH1eHPeH1eH1eH3sg19sg11eH1eH1sg11sg15sg15sg11sg13eH1eH1eH1eH1
  eH1eH1sg11eH1eH1eH1eH2eH1eH1eH1eH1eH1eH1eH1eH1eH1eH1eH1eH1eH7eH1eH121k20tg11fH2fH2fH1fH1fH3fH1tg
  12tg11fH2fH2fH1fH1fH1tg11fH1fH1fH1fH1tg11tg12fH3fH1fH1fH1fH1fH1fH1fH1fH2fH3fH1tg18tg11tg13fH1fH1
  fH3fH1fHPfH1fH1fH3tg19tg11fH1fH1tg11tg15tg15tg11tg13fH1fH1fH1fH1fH1fH1tg11fH1fH1fH1fH2fH1fH1fH1f
  H1fH1fH1fH1fH1fH1fH1fH1fH1fH7fH1fH121k20wZ11zH2zH2zH1zH1zH3zH1wZ12wZ11zH2zH2zH1zH1zH1wZ11zH1zH1z
  H1zH1wZ11wZ12zH3zH1zH1zH1zH1zH1zH1zH1zH2zH3zH1wZ18wZ11wZ13zH1zH1zH3zH1zHPzH1zH1zH3wZ19wZ11zH1zH1
  wZ11wZ15wZ15wZ11wZ13zH1zH1zH1zH1zH1zH1wZ11zH1zH1zH1zH2zH1zH1zH1zH1zH1zH1zH1zH1zH1zH1zH1zH1zH7zH1
  zH121k20ca11fI2fI2fI1fI1fI3fI1ca12ca11fI2fI2fI1fI1fI1ca11fI1fI1fI1fI1ca11ca12fI3fI1fI1fI1fI1fI1f
  I1fI1fI2fI3fI1ca18ca11ca13fI1fI1fI3fI1fIPfI1fI1fI3ca19ca11fI1fI1ca11ca15ca15ca11ca13fI1fI1fI1fI1
  fI1fI1ca11fI1fI1fI1fI2fI1fI1fI1fI1fI1fI1fI1fI1fI1fI1fI1fI1fI7fI1fI121k20ga11jI2jI2jI1jI1jI3jI1ga
  12ga11jI2jI2jI1jI1jI1ga11jI1jI1jI1jI1ga11ga12jI3jI1jI1jI1jI1jI1jI1jI1jI2jI3jI1ga18ga11ga13jI1jI1
  jI3jI1jIPjI1jI1jI3ga19ga11jI1jI1ga11ga15ga15ga11ga13jI1jI1jI1jI1jI1jI1ga11jI1jI1jI1jI2jI1jI1jI1j
  I1jI1jI1jI1jI1jI1jI1jI1jI1jI7jI1jI121k20iZ11yF2yF2yF1yF1yF3yF1iZ12iZ11yF2yF2yF1yF1yF1iZ11yF1yF1y
  F1yF1iZ11iZ12yF3yF1yF1yF1yF1yF1yF1yF1yF2yF3yF1iZ18iZ11iZ13yF1yF1yF3yF1yFPyF1yF1yF3iZ19iZ11yF1yF1
  iZ11iZ15iZ15iZ11iZ13yF1yF1yF1yF1yF1yF1iZ11yF1yF1yF1yF2yF1yF1yF1yF1yF1yF1yF1yF1yF1yF1yF1yF1yF7yF1
  yF121k20kM1k72k72k71k71k73k71kM2kM1k72k72k71k71k71kM1k71k71k71k71kM1kM2k73k71k71k71k71k71k71k71k
  72k73k71kM8kM1kM3k71k71k73k71k7Pk71k71k73kM9kM1k71k71kM1kM5kM5kM1kM3k71k71k71k71k71k71kM1k71k71k
  71k72k71k71k71k71k71k71k71k71k71k71k71k71k77k71k71210121k20lZ11_F2_F2_F1_F1_F3_F1lZ12lZ11_F2_F2_
  F1_F1_F1lZ11_F1_F1_F1_F1lZ11lZ12_F3_F1_F1_F1_F1_F1_F1_F1_F2_F3_F1lZ18lZ11lZ13_F1_F1_F3_F1_FP_F1_
  F1_F3lZ19lZ11_F1_F1lZ11lZ15lZ15lZ11lZ13_F1_F1_F1_F1_F1_F1lZ11_F1_F1_F1_F2_F1_F1_F1_F1_F1_F1_F1_F
  1_F1_F1_F1_F1_F7_F1_F121k20jZ11zF2zF2zF1zF1zF3zF1jZ12jZ11zF2zF2zF1zF1zF1jZ11zF1zF1zF1zF1jZ11jZ12
  zF3zF1zF1zF1zF1zF1zF1zF1zF2zF3zF1jZ18jZ11jZ13zF1zF1zF3zF1zFPzF1zF1zF3jZ19jZ11zF1zF1jZ11jZ15jZ15j
  Z11jZ13zF1zF1zF1zF1zF1zF1jZ11zF1zF1zF1zF2zF1zF1zF1zF1zF1zF1zF1zF1zF1zF1zF1zF1zF7zF1zF121k20tf11a
  G2aG2aG1aG1aG3aG1tf12tf11aG2aG2aG1aG1aG1tf11aG1aG1aG1aG1tf11tf12aG3aG1aG1aG1aG1aG1aG1aG1aG2aG3aG
  1tf18tf11tf13aG1aG1aG3aG1aGPaG1aG1aG3tf19tf11aG1aG1tf11tf15tf15tf11tf13aG1aG1aG1aG1aG1aG1tf11aG1
  aG1aG1aG2aG1aG1aG1aG1aG1aG1aG1aG1aG1aG1aG1aG1aG7aG1aG121k20rf11YG2YG2YG1YG1YG3YG1rf12rf11YG2YG2Y
  G1YG1YG1rf11YG1YG1YG1YG1rf11rf12YG3YG1YG1YG1YG1YG1YG1YG1YG2YG3YG1rf18rf11rf13YG1YG1YG3YG1YGPYG1Y
  G1YG3rf19rf11YG1YG1rf11rf15rf15rf11rf13YG1YG1YG1YG1YG1YG1rf11YG1YG1YG1YG2YG1YG1YG1YG1YG1YG1YG1YG
  1YG1YG1YG1YG1YG7YG1YG121k20_Q1m72m72m71m71m73m71_Q2_Q1m72m72m71m71m71_Q1m71m71m71m71_Q1_Q2m73m71
  m71m71m71m71m71m71m72m73m71_Q8_Q1_Q3m71m71m73m71m7Pm71m71m73_Q9_Q1m71m71_Q1_Q5_Q5_Q1_Q3m71m71m71
  m71m71m71_Q1m71m71m71m72m71m71m71m71m71m71m71m71m71m71m71m71m77m71m71210121k20sf11ZG2ZG2ZG1ZG1ZG
  3ZG1sf12sf11ZG2ZG2ZG1ZG1ZG1sf11ZG1ZG1ZG1ZG1sf11sf12ZG3ZG1ZG1ZG1ZG1ZG1ZG1ZG1ZG2ZG3ZG1sf18sf11sf13
  ZG1ZG1ZG3ZG1ZGPZG1ZG1ZG3sf19sf11ZG1ZG1sf11sf15sf15sf11sf13ZG1ZG1ZG1ZG1ZG1ZG1sf11ZG1ZG1ZG1ZG2ZG1Z
  G1ZG1ZG1ZG1ZG1ZG1ZG1ZG1ZG1ZG1ZG1ZG7ZG1ZG121k20nZ11gG2gG2gG1gG1gG3gG1nZ12nZ11gG2gG2gG1gG1gG1nZ11g
  G1gG1gG1gG1nZ11nZ12gG3gG1gG1gG1gG1gG1gG1gG1gG2gG3gG1nZ18nZ11nZ13gG1gG1gG3gG1gGPgG1gG1gG3nZ19nZ11
  gG1gG1nZ11nZ15nZ15nZ11nZ13gG1gG1gG1gG1gG1gG1nZ11gG1gG1gG1gG2gG1gG1gG1gG1gG1gG1gG1gG1gG1gG1gG1gG1
  gG7gG1gG121k20pZ11iG2iG2iG1iG1iG3iG1pZ12pZ11iG2iG2iG1iG1iG1pZ11iG1iG1iG1iG1pZ11pZ12iG3iG1iG1iG1i
  G1iG1iG1iG1iG2iG3iG1pZ18pZ11pZ13iG1iG1iG3iG1iGPiG1iG1iG3pZ19pZ11iG1iG1pZ11pZ15pZ15pZ11pZ13iG1iG1
  iG1iG1iG1iG1pZ11iG1iG1iG1iG2iG1iG1iG1iG1iG1iG1iG1iG1iG1iG1iG1iG1iG7iG1iG121k20ha11kI2kI2kI1kI1kI
  3kI1ha12ha11kI2kI2kI1kI1kI1ha11kI1kI1kI1kI1ha11ha12kI3kI1kI1kI1kI1kI1kI1kI1kI2kI3kI1ha18ha11ha13
  kI1kI1kI3kI1kIPkI1kI1kI3ha19ha11kI1kI1ha11ha15ha15ha11ha13kI1kI1kI1kI1kI1kI1ha11kI1kI1kI1kI2kI1k
  I1kI1kI1kI1kI1kI1kI1kI1kI1kI1kI1kI7kI1kI121k20zf11kG2kG2kG1kG1kG3kG1zf12zf11kG2kG2kG1kG1kG1zf11k
  G1kG1kG1kG1zf11zf12kG3kG1kG1kG1kG1kG1kG1kG1kG2kG3kG1zf18zf11zf13kG1kG1kG3kG1kGPkG1kG1kG3zf19zf11
  kG1kG1zf11zf15zf15zf11zf13kG1kG1kG1kG1kG1kG1zf11kG1kG1kG1kG2kG1kG1kG1kG1kG1kG1kG1kG1kG1kG1kG1kG1
  kG7kG1kG121k20vg11iH2iH2iH1iH1iH3iH1vg12vg11iH2iH2iH1iH1iH1vg11iH1iH1iH1iH1vg11vg12iH3iH1iH1iH1i
  H1iH1iH1iH1iH2iH3iH1vg18vg11vg13iH1iH1iH3iH1iHPiH1iH1iH3vg19vg11iH1iH1vg11vg15vg15vg11vg13iH1iH1
  iH1iH1iH1iH1vg11iH1iH1iH1iH2iH1iH1iH1iH1iH1iH1iH1iH1iH1iH1iH1iH1iH7iH1iH121k20eg11vG2vG2vG1vG1vG
  3vG1eg12eg11vG2vG2vG1vG1vG1eg11vG1vG1vG1vG1eg11eg12vG3vG1vG1vG1vG1vG1vG1vG1vG2vG3vG1eg18eg11eg13
  vG1vG1vG3vG1vGPvG1vG1vG3eg19eg11vG1vG1eg11eg15eg15eg11eg13vG1vG1vG1vG1vG1vG1eg11vG1vG1vG1vG2vG1v
  G1vG1vG1vG1vG1vG1vG1vG1vG1vG1vG1vG7vG1vG121k20.g11kH2kH2kH1kH1kH3kH1.g12.g11kH2kH2kH1kH1kH1.g11k
  H1kH1kH1kH1.g11.g12kH3kH1kH1kH1kH1kH1kH1kH1kH2kH3kH1.g18.g11.g13kH1kH1kH3kH1kHPkH1kH1kH3.g19.g11
  kH1kH1.g11.g15.g15.g11.g13kH1kH1kH1kH1kH1kH1.g11kH1kH1kH1kH2kH1kH1kH1kH1kH1kH1kH1kH1kH1kH1kH1kH1
  kH7kH1kH121k20kg11WH2WH2WH1WH1WH3WH1kg12kg11WH2WH2WH1WH1WH1kg11WH1WH1WH1WH1kg11kg12WH3WH1WH1WH1W
  H1WH1WH1WH1WH2WH3WH1kg18kg11kg13WH1WH1WH3WH1WHPWH1WH1WH3kg19kg11WH1WH1kg11kg15kg15kg11kg13WH1WH1
  WH1WH1WH1WH1kg11WH1WH1WH1WH2WH1WH1WH1WH1WH1WH1WH1WH1WH1WH1WH1WH1WH7WH1WH121k20_g11mH2mH2mH1mH1mH
  3mH1_g12_g11mH2mH2mH1mH1mH1_g11mH1mH1mH1mH1_g11_g12mH3mH1mH1mH1mH1mH1mH1mH1mH2mH3mH1_g18_g11_g13
  mH1mH1mH3mH1mHPmH1mH1mH3_g19_g11mH1mH1_g11_g15_g15_g11_g13mH1mH1mH1mH1mH1mH1_g11mH1mH1mH1mH2mH1m
  H1mH1mH1mH1mH1mH1mH1mH1mH1mH1mH1mH7mH1mH121k20qE1c42c42c41c41c43c41qE2qE1c42c42c41c41c41qE1c41c4
  1c41c41qE1qE2c43c41c41c41c41c41c41c41c42c43c41qE8qE1qE3c41c41c43c41c4Pc41c41c43qE9qE1c41c41qE1qE
  5qE5qE1qE3c41c41c41c41c41c41qE1c41c41c41c42c41c41c41c41c41c41c41c41c41c41c41c41c47c41c4121012101
  21k20yZ11_H2_H2_H1_H1_H3_H1yZ12yZ11_H2_H2_H1_H1_H1yZ11_H1_H1_H1_H1yZ11yZ12_H3_H1_H1_H1_H1_H1_H1_
  H1_H2_H3_H1yZ18yZ11yZ13_H1_H1_H3_H1_HP_H1_H1_H3yZ19yZ11_H1_H1yZ11yZ15yZ15yZ11yZ13_H1_H1_H1_H1_H1
  _H1yZ11_H1_H1_H1_H2_H1_H1_H1_H1_H1_H1_H1_H1_H1_H1_H1_H1_H7_H1_H121k20da11gI2gI2gI1gI1gI3gI1da12d
  a11gI2gI2gI1gI1gI1da11gI1gI1gI1gI1da11da12gI3gI1gI1gI1gI1gI1gI1gI1gI2gI3gI1da18da11da13gI1gI1gI3
  gI1gIPgI1gI1gI3da19da11gI1gI1da11da15da15da11da13gI1gI1gI1gI1gI1gI1da11gI1gI1gI1gI2gI1gI1gI1gI1g
  I1gI1gI1gI1gI1gI1gI1gI1gI7gI1gI121k20ea11hI2hI2hI1hI1hI3hI1ea12ea11hI2hI2hI1hI1hI1ea11hI1hI1hI1h
  I1ea11ea12hI3hI1hI1hI1hI1hI1hI1hI1hI2hI3hI1ea18ea11ea13hI1hI1hI3hI1hIPhI1hI1hI3ea19ea11hI1hI1ea1
  1ea15ea15ea11ea13hI1hI1hI1hI1hI1hI1ea11hI1hI1hI1hI2hI1hI1hI1hI1hI1hI1hI1hI1hI1hI1hI1hI1hI7hI1hI1
  21k20ia11lI2lI2lI1lI1lI3lI1ia12ia11lI2lI2lI1lI1lI1ia11lI1lI1lI1lI1ia11ia12lI3lI1lI1lI1lI1lI1lI1l
  I1lI2lI3lI1ia18ia11ia13lI1lI1lI3lI1lIPlI1lI1lI3ia19ia11lI1lI1ia11ia15ia15ia11ia13lI1lI1lI1lI1lI1
  lI1ia11lI1lI1lI1lI2lI1lI1lI1lI1lI1lI1lI1lI1lI1lI1lI1lI1lI7lI1lI121k20kZ11.F2.F2.F1.F1.F3.F1kZ12k
  Z11.F2.F2.F1.F1.F1kZ11.F1.F1.F1.F1kZ11kZ12.F3.F1.F1.F1.F1.F1.F1.F1.F2.F3.F1kZ18kZ11kZ13.F1.F1.F3
  .F1.FP.F1.F1.F3kZ19kZ11.F1.F1kZ11kZ15kZ15kZ11kZ13.F1.F1.F1.F1.F1.F1kZ11.F1.F1.F1.F2.F1.F1.F1.F1.
  F1.F1.F1.F1.F1.F1.F1.F1.F7.F1.F121k20mE1a42a42a41a41a43a41mE2mE1a42a42a41a41a41mE1a41a41a41a41mE
  1mE2a43a41a41a41a41a41a41a41a42a43a41mE8mE1mE3a41a41a43a41a4Pa41a41a43mE9mE1a41a41mE1mE5mE5mE1mE
  3a41a41a41a41a41a41mE1a41a41a41a42a41a41a41a41a41a41a41a41a41a41a41a41a47a41a412101210121k20pa11
  sI2sI2sI1sI1sI3sI1pa12pa11sI2sI2sI1sI1sI1pa11sI1sI1sI1sI1pa11pa12sI3sI1sI1sI1sI1sI1sI1sI1sI2sI3s
  I1pa18pa11pa13sI1sI1sI3sI1sIPsI1sI1sI3pa19pa11sI1sI1pa11pa15pa15pa11pa13sI1sI1sI1sI1sI1sI1pa11sI
  1sI1sI1sI2sI1sI1sI1sI1sI1sI1sI1sI1sI1sI1sI1sI1sI7sI1sI121k20WR1n72n72n71n71n73n71WR2WR1n72n72n71
  n71n71WR1n71n71n71n71WR1WR2n73n71n71n71n71n71n71n71n72n73n71WR8WR1WR3n71n71n73n71n7Pn71n71n73WR9
  WR1n71n71WR1WR5WR5WR1WR3n71n71n71n71n71n71WR1n71n71n71n72n71n71n71n71n71n71n71n71n71n71n71n71n77
  n71n71210121k20vf11cG2cG2cG1cG1cG3cG1vf12vf11cG2cG2cG1cG1cG1vf11cG1cG1cG1cG1vf11vf12cG3cG1cG1cG1
  cG1cG1cG1cG1cG2cG3cG1vf18vf11vf13cG1cG1cG3cG1cGPcG1cG1cG3vf19vf11cG1cG1vf11vf15vf15vf11vf13cG1cG
  1cG1cG1cG1cG1vf11cG1cG1cG1cG2cG1cG1cG1cG1cG1cG1cG1cG1cG1cG1cG1cG1cG7cG1cG121k20uf11bG2bG2bG1bG1b
  G3bG1uf12uf11bG2bG2bG1bG1bG1uf11bG1bG1bG1bG1uf11uf12bG3bG1bG1bG1bG1bG1bG1bG1bG2bG3bG1uf18uf11uf1
  3bG1bG1bG3bG1bGPbG1bG1bG3uf19uf11bG1bG1uf11uf15uf15uf11uf13bG1bG1bG1bG1bG1bG1uf11bG1bG1bG1bG2bG1
  bG1bG1bG1bG1bG1bG1bG1bG1bG1bG1bG1bG7bG1bG121k20ba11eI2eI2eI1eI1eI3eI1ba12ba11eI2eI2eI1eI1eI1ba11
  eI1eI1eI1eI1ba11ba12eI3eI1eI1eI1eI1eI1eI1eI1eI2eI3eI1ba18ba11ba13eI1eI1eI3eI1eIPeI1eI1eI3ba19ba1
  1eI1eI1ba11ba15ba15ba11ba13eI1eI1eI1eI1eI1eI1ba11eI1eI1eI1eI2eI1eI1eI1eI1eI1eI1eI1eI1eI1eI1eI1eI
  1eI7eI1eI121k20XR1o72o72o71o71o73o71XR2XR1o72o72o71o71o71XR1o71o71o71o71XR1XR2o73o71o71o71o71o71
  o71o71o72o73o71XR8XR1XR3o71o71o73o71o7Po71o71o73XR9XR1o71o71XR1XR5XR5XR1XR3o71o71o71o71o71o71XR1
  o71o71o71o72o71o71o71o71o71o71o71o71o71o71o71o71o77o71o71210121k20yf11jG2jG2jG1jG1jG3jG1yf12yf11
  jG2jG2jG1jG1jG1yf11jG1jG1jG1jG1yf11yf12jG3jG1jG1jG1jG1jG1jG1jG1jG2jG3jG1yf18yf11yf13jG1jG1jG3jG1
  jGPjG1jG1jG3yf19yf11jG1jG1yf11yf15yf15yf11yf13jG1jG1jG1jG1jG1jG1yf11jG1jG1jG1jG2jG1jG1jG1jG1jG1j
  G1jG1jG1jG1jG1jG1jG1jG7jG1jG121k20wg11jH2jH2jH1jH1jH3jH1wg12wg11jH2jH2jH1jH1jH1wg11jH1jH1jH1jH1w
  g11wg12jH3jH1jH1jH1jH1jH1jH1jH1jH2jH3jH1wg18wg11wg13jH1jH1jH3jH1jHPjH1jH1jH3wg19wg11jH1jH1wg11wg
  15wg15wg11wg13jH1jH1jH1jH1jH1jH1wg11jH1jH1jH1jH2jH1jH1jH1jH1jH1jH1jH1jH1jH1jH1jH1jH1jH7jH1jH121k
  20gg11yG2yG2yG1yG1yG3yG1gg12gg11yG2yG2yG1yG1yG1gg11yG1yG1yG1yG1gg11gg12yG3yG1yG1yG1yG1yG1yG1yG1y
  G2yG3yG1gg18gg11gg13yG1yG1yG3yG1yGPyG1yG1yG3gg19gg11yG1yG1gg11gg15gg15gg11gg13yG1yG1yG1yG1yG1yG1
  gg11yG1yG1yG1yG2yG1yG1yG1yG1yG1yG1yG1yG1yG1yG1yG1yG1yG7yG1yG121k20Wh11nH2nH2nH1nH1nH3nH1Wh12Wh11
  nH2nH2nH1nH1nH1Wh11nH1nH1nH1nH1Wh11Wh12nH3nH1nH1nH1nH1nH1nH1nH1nH2nH3nH1Wh18Wh11Wh13nH1nH1nH3nH1
  nHPnH1nH1nH3Wh19Wh11nH1nH1Wh11Wh15Wh15Wh11Wh13nH1nH1nH1nH1nH1nH1Wh11nH1nH1nH1nH2nH1nH1nH1nH1nH1n
  H1nH1nH1nH1nH1nH1nH1nH7nH1nH121k20Xh11oH2oH2oH1oH1oH3oH1Xh12Xh11oH2oH2oH1oH1oH1Xh11oH1oH1oH1oH1X
  h11Xh12oH3oH1oH1oH1oH1oH1oH1oH1oH2oH3oH1Xh18Xh11Xh13oH1oH1oH3oH1oHPoH1oH1oH3Xh19Xh11oH1oH1Xh11Xh
  15Xh15Xh11Xh13oH1oH1oH1oH1oH1oH1Xh11oH1oH1oH1oH2oH1oH1oH1oH1oH1oH1oH1oH1oH1oH1oH1oH1oH7oH1oH62g2
  7C0Y1gn2p8ka51ka51ka51ka51ka5122k20rE1d42d42d41d41d43d41rE2rE1d42d42d41d41d41rE1d41d41d41d41rE1r
  E2d43d41d41d41d41d41d41d41d42d43d41rE8rE1rE3d41d41d43d41d4Pd41d41d43rE9rE1d41d41rE1rE5rE5rE1rE3d
  41d41d41d41d41d41rE1d41d41d41d42d41d41d41d41d41d41d41d41d41d41d41d41d47d41d412101210121k20qZ11uH
  2uH2uH1uH1uH3uH1qZ12qZ11uH2uH2uH1uH1uH1qZ11uH1uH1uH1uH1qZ11qZ12uH3uH1uH1uH1uH1uH1uH1uH1uH2uH3uH1
  qZ18qZ11qZ13uH1uH1uH3uH1uHPuH1uH1uH3qZ19qZ11uH1uH1qZ11qZ15qZ15qZ11qZ13uH1uH1uH1uH1uH1uH1qZ11uH1u
  H1uH1uH2uH1uH1uH1uH1uH1uH1uH1uH1uH1uH1uH1uH1uH7uH1uH121k20zZ11WI2WI2WI1WI1WI3WI1zZ12zZ11WI2WI2WI
  1WI1WI1zZ11WI1WI1WI1WI1zZ11zZ12WI3WI1WI1WI1WI1WI1WI1WI1WI2WI3WI1zZ18zZ11zZ13WI1WI1WI3WI1WIPWI1WI
  1WI3zZ19zZ11WI1WI1zZ11zZ15zZ15zZ11zZ13WI1WI1WI1WI1WI1WI1zZ11WI1WI1WI1WI2WI1WI1WI1WI1WI1WI1WI1WI1
  WI1WI1WI1WI1WI7WI1WI121k20.Z11XI2XI2XI1XI1XI3XI1.Z12.Z11XI2XI2XI1XI1XI1.Z11XI1XI1XI1XI1.Z11.Z12X
  I3XI1XI1XI1XI1XI1XI1XI1XI2XI3XI1.Z18.Z11.Z13XI1XI1XI3XI1XIPXI1XI1XI3.Z19.Z11XI1XI1.Z11.Z15.Z15.Z
  11.Z13XI1XI1XI1XI1XI1XI1.Z11XI1XI1XI1XI2XI1XI1XI1XI1XI1XI1XI1XI1XI1XI1XI1XI1XI7XI1XI121k20fa11iI
  2iI2iI1iI1iI3iI1fa12fa11iI2iI2iI1iI1iI1fa11iI1iI1iI1iI1fa11fa12iI3iI1iI1iI1iI1iI1iI1iI1iI2iI3iI1
  fa18fa11fa13iI1iI1iI3iI1iIPiI1iI1iI3fa19fa11iI1iI1fa11fa15fa15fa11fa13iI1iI1iI1iI1iI1iI1fa11iI1i
  I1iI1iI2iI1iI1iI1iI1iI1iI1iI1iI1iI1iI1iI1iI1iI7iI1iI121k20ka11nI2nI2nI1nI1nI3nI1ka12ka11nI2nI2nI
  1nI1nI1ka11nI1nI1nI1nI1ka11ka12nI3nI1nI1nI1nI1nI1nI1nI1nI2nI3nI1ka18ka11ka13nI1nI1nI3nI1nIPnI1nI
  1nI3ka19ka11nI1nI1ka11ka15ka15ka11ka13nI1nI1nI1nI1nI1nI1ka11nI1nI1nI1nI2nI1nI1nI1nI1nI1nI1nI1nI1
  nI1nI1nI1nI1nI7nI1nI121k20ja11mI2mI2mI1mI1mI3mI1ja12ja11mI2mI2mI1mI1mI1ja11mI1mI1mI1mI1ja11ja12m
  I3mI1mI1mI1mI1mI1mI1mI1mI2mI3mI1ja18ja11ja13mI1mI1mI3mI1mIPmI1mI1mI3ja19ja11mI1mI1ja11ja15ja15ja
  11ja13mI1mI1mI1mI1mI1mI1ja11mI1mI1mI1mI2mI1mI1mI1mI1mI1mI1mI1mI1mI1mI1mI1mI1mI7mI1mI121k20lM1l72
  l72l71l71l73l71lM2lM1l72l72l71l71l71lM1l71l71l71l71lM1lM2l73l71l71l71l71l71l71l71l72l73l71lM8lM1
  lM3l71l71l73l71l7Pl71l71l73lM9lM1l71l71lM1lM5lM5lM1lM3l71l71l71l71l71l71lM1l71l71l71l72l71l71l71
  l71l71l71l71l71l71l71l71l71l77l71l71210121k20Yh11pH2pH2pH1pH1pH3pH1Yh12Yh11pH2pH2pH1pH1pH1Yh11pH
  1pH1pH1pH1Yh11Yh12pH3pH1pH1pH1pH1pH1pH1pH1pH2pH3pH1Yh18Yh11Yh13pH1pH1pH3pH1pHPpH1pH1pH3Yh19Yh11p
  H1pH1Yh11Yh15Yh15Yh11Yh13pH1pH1pH1pH1pH1pH1Yh11pH1pH1pH1pH2pH1pH1pH1pH1pH1pH1pH1pH1pH1pH1pH1pH1p
  H7pH1pH121k20_Z11YI2YI2YI1YI1YI3YI1_Z12_Z11YI2YI2YI1YI1YI1_Z11YI1YI1YI1YI1_Z11_Z12YI3YI1YI1YI1YI
  1YI1YI1YI1YI2YI3YI1_Z18_Z11_Z13YI1YI1YI3YI1YIPYI1YI1YI3_Z19_Z11YI1YI1_Z11_Z15_Z15_Z11_Z13YI1YI1Y
  I1YI1YI1YI1_Z11YI1YI1YI1YI2YI1YI1YI1YI1YI1YI1YI1YI1YI1YI1YI1YI1YI7YI1YI121k20qa11tI2tI2tI1tI1tI3
  tI1qa12qa11tI2tI2tI1tI1tI1qa11tI1tI1tI1tI1qa11qa12tI3tI1tI1tI1tI1tI1tI1tI1tI2tI3tI1qa18qa11qa13t
  I1tI1tI3tI1tIPtI1tI1tI3qa19qa11tI1tI1qa11qa15qa15qa11qa13tI1tI1tI1tI1tI1tI1qa11tI1tI1tI1tI2tI1tI
  1tI1tI1tI1tI1tI1tI1tI1tI1tI1tI1tI7tI1tI121k20YR1p72p72p71p71p73p71YR2YR1p72p72p71p71p71YR1p71p71
  p71p71YR1YR2p73p71p71p71p71p71p71p71p72p73p71YR8YR1YR3p71p71p73p71p7Pp71p71p73YR9YR1p71p71YR1YR5
  YR5YR1YR3p71p71p71p71p71p71YR1p71p71p71p72p71p71p71p71p71p71p71p71p71p71p71p71p77p71p71210121k20
  _f11mG2mG2mG1mG1mG3mG1_f12_f11mG2mG2mG1mG1mG1_f11mG1mG1mG1mG1_f11_f12mG3mG1mG1mG1mG1mG1mG1mG1mG2
  mG3mG1_f18_f11_f13mG1mG1mG3mG1mGPmG1mG1mG3_f19_f11mG1mG1_f11_f15_f15_f11_f13mG1mG1mG1mG1mG1mG1_f
  11mG1mG1mG1mG2mG1mG1mG1mG1mG1mG1mG1mG1mG1mG1mG1mG1mG7mG1mG121k20Zh11qH2qH2qH1qH1qH3qH1Zh12Zh11qH
  2qH2qH1qH1qH1Zh11qH1qH1qH1qH1Zh11Zh12qH3qH1qH1qH1qH1qH1qH1qH1qH2qH3qH1Zh18Zh11Zh13qH1qH1qH3qH1qH
  PqH1qH1qH3Zh19Zh11qH1qH1Zh11Zh15Zh15Zh11Zh13qH1qH1qH1qH1qH1qH1Zh11qH1qH1qH1qH2qH1qH1qH1qH1qH1qH1
  qH1qH1qH1qH1qH1qH1qH7qH1qH62J1k1bu3122k20rZ11vH2vH2vH1vH1vH3vH1rZ12rZ11vH2vH2vH1vH1vH1rZ11vH1vH1
  vH1vH1rZ11rZ12vH3vH1vH1vH1vH1vH1vH1vH1vH2vH3vH1rZ18rZ11rZ13vH1vH1vH3vH1vHPvH1vH1vH3rZ19rZ11vH1vH
  1rZ11rZ15rZ15rZ11rZ13vH1vH1vH1vH1vH1vH1rZ11vH1vH1vH1vH2vH1vH1vH1vH1vH1vH1vH1vH1vH1vH1vH1vH1vH7vH
  1vH121k20sZ11wH2wH2wH1wH1wH3wH1sZ12sZ11wH2wH2wH1wH1wH1sZ11wH1wH1wH1wH1sZ11sZ12wH3wH1wH1wH1wH1wH1
  wH1wH1wH2wH3wH1sZ18sZ11sZ13wH1wH1wH3wH1wHPwH1wH1wH3sZ19sZ11wH1wH1sZ11sZ15sZ15sZ11sZ13wH1wH1wH1wH
  1wH1wH1sZ11wH1wH1wH1wH2wH1wH1wH1wH1wH1wH1wH1wH1wH1wH1wH1wH1wH7wH1wH121k20Wa11ZI2ZI2ZI1ZI1ZI3ZI1W
  a12Wa11ZI2ZI2ZI1ZI1ZI1Wa11ZI1ZI1ZI1ZI1Wa11Wa12ZI3ZI1ZI1ZI1ZI1ZI1ZI1ZI1ZI2ZI3ZI1Wa18Wa11Wa13ZI1ZI
  1ZI3ZI1ZIPZI1ZI1ZI3Wa19Wa11ZI1ZI1Wa11Wa15Wa15Wa11Wa13ZI1ZI1ZI1ZI1ZI1ZI1Wa11ZI1ZI1ZI1ZI2ZI1ZI1ZI1
  ZI1ZI1ZI1ZI1ZI1ZI1ZI1ZI1ZI1ZI7ZI1ZI121k20uM1q72q72q71q71q73q71uM2uM1q72q72q71q71q71uM1q71q71q71q
  71uM1uM2q73q71q71q71q71q71q71q71q72q73q71uM8uM1uM3q71q71q73q71q7Pq71q71q73uM9uM1q71q71uM1uM5uM5u
  M1uM3q71q71q71q71q71q71uM1q71q71q71q72q71q71q71q71q71q71q71q71q71q71q71q71q77q71q71210121k20la11
  oI2oI2oI1oI1oI3oI1la12la11oI2oI2oI1oI1oI1la11oI1oI1oI1oI1la11la12oI3oI1oI1oI1oI1oI1oI1oI1oI2oI3o
  I1la18la11la13oI1oI1oI3oI1oIPoI1oI1oI3la19la11oI1oI1la11la15la15la11la13oI1oI1oI1oI1oI1oI1la11oI
  1oI1oI1oI2oI1oI1oI1oI1oI1oI1oI1oI1oI1oI1oI1oI1oI7oI1oI121k20ma11pI2pI2pI1pI1pI3pI1ma12ma11pI2pI2
  pI1pI1pI1ma11pI1pI1pI1pI1ma11ma12pI3pI1pI1pI1pI1pI1pI1pI1pI2pI3pI1ma18ma11ma13pI1pI1pI3pI1pIPpI1
  pI1pI3ma19ma11pI1pI1ma11ma15ma15ma11ma13pI1pI1pI1pI1pI1pI1ma11pI1pI1pI1pI2pI1pI1pI1pI1pI1pI1pI1p
  I1pI1pI1pI1pI1pI7pI1pI121k20ah11rH2rH2rH1rH1rH3rH1ah12ah11rH2rH2rH1rH1rH1ah11rH1rH1rH1rH1ah11ah1
  2rH3rH1rH1rH1rH1rH1rH1rH1rH2rH3rH1ah18ah11ah13rH1rH1rH3rH1rHPrH1rH1rH3ah19ah11rH1rH1ah11ah15ah15
  ah11ah13rH1rH1rH1rH1rH1rH1ah11rH1rH1rH1rH2rH1rH1rH1rH1rH1rH1rH1rH1rH1rH1rH1rH1rH7rH1rH121k20bh11
  sH2sH2sH1sH1sH3sH1bh12bh11sH2sH2sH1sH1sH1bh11sH1sH1sH1sH1bh11bh12sH3sH1sH1sH1sH1sH1sH1sH1sH2sH3s
  H1bh18bh11bh13sH1sH1sH3sH1sHPsH1sH1sH3bh19bh11sH1sH1bh11bh15bh15bh11bh13sH1sH1sH1sH1sH1sH1bh11sH
  1sH1sH1sH2sH1sH1sH1sH1sH1sH1sH1sH1sH1sH1sH1sH1sH7sH1sH121k20Xa11aI2aI2aI1aI1aI3aI1Xa12Xa11aI2aI2
  aI1aI1aI1Xa11aI1aI1aI1aI1Xa11Xa12aI3aI1aI1aI1aI1aI1aI1aI1aI2aI3aI1Xa18Xa11Xa13aI1aI1aI3aI1aIPaI1
  aI1aI3Xa19Xa11aI1aI1Xa11Xa15Xa15Xa11Xa13aI1aI1aI1aI1aI1aI1Xa11aI1aI1aI1aI2aI1aI1aI1aI1aI1aI1aI1a
  I1aI1aI1aI1aI1aI7aI1aI121k20Ya11bI2bI2bI1bI1bI3bI1Ya12Ya11bI2bI2bI1bI1bI1Ya11bI1bI1bI1bI1Ya11Ya1
  2bI3bI1bI1bI1bI1bI1bI1bI1bI2bI3bI1Ya18Ya11Ya13bI1bI1bI3bI1bIPbI1bI1bI3Ya19Ya11bI1bI1Ya11Ya15Ya15
  Ya11Ya13bI1bI1bI1bI1bI1bI1Ya11bI1bI1bI1bI2bI1bI1bI1bI1bI1bI1bI1bI1bI1bI1bI1bI1bI7bI1bI121k20Wg11
  nG2nG2nG1nG1nG3nG1Wg12Wg11nG2nG2nG1nG1nG1Wg11nG1nG1nG1nG1Wg11Wg12nG3nG1nG1nG1nG1nG1nG1nG1nG2nG3n
  G1Wg18Wg11Wg13nG1nG1nG3nG1nGPnG1nG1nG3Wg19Wg11nG1nG1Wg11Wg15Wg15Wg11Wg13nG1nG1nG1nG1nG1nG1Wg11nG
  1nG1nG1nG2nG1nG1nG1nG1nG1nG1nG1nG1nG1nG1nG1nG1nG7nG1nG121k20Xg11oG2oG2oG1oG1oG3oG1Xg12Xg11oG2oG2
  oG1oG1oG1Xg11oG1oG1oG1oG1Xg11Xg12oG3oG1oG1oG1oG1oG1oG1oG1oG2oG3oG1Xg18Xg11Xg13oG1oG1oG3oG1oGPoG1
  oG1oG3Xg19Xg11oG1oG1Xg11Xg15Xg15Xg11Xg13oG1oG1oG1oG1oG1oG1Xg11oG1oG1oG1oG2oG1oG1oG1oG1oG1oG1oG1o
  G1oG1oG1oG1oG1oG7oG1oG121k20Yg11pG2pG2pG1pG1pG3pG1Yg12Yg11pG2pG2pG1pG1pG1Yg11pG1pG1pG1pG1Yg11Yg1
  2pG3pG1pG1pG1pG1pG1pG1pG1pG2pG3pG1Yg18Yg11Yg13pG1pG1pG3pG1pGPpG1pG1pG3Yg19Yg11pG1pG1Yg11Yg15Yg15
  Yg11Yg13pG1pG1pG1pG1pG1pG1Yg11pG1pG1pG1pG2pG1pG1pG1pG1pG1pG1pG1pG1pG1pG1pG1pG1pG7pG1pG121k20tZ11
  xH2xH2xH1xH1xH3xH1tZ12tZ11xH2xH2xH1xH1xH1tZ11xH1xH1xH1xH1tZ11tZ12xH3xH1xH1xH1xH1xH1xH1xH1xH2xH3x
  H1tZ18tZ11tZ13xH1xH1xH3xH1xHPxH1xH1xH3tZ19tZ11xH1xH1tZ11tZ15tZ15tZ11tZ13xH1xH1xH1xH1xH1xH1tZ11xH
  1xH1xH1xH2xH1xH1xH1xH1xH1xH1xH1xH1xH1xH1xH1xH1xH7xH1xH121k20xZ11.H2.H2.H1.H1.H3.H1xZ12xZ11.H2.H2
  .H1.H1.H1xZ11.H1.H1.H1.H1xZ11xZ12.H3.H1.H1.H1.H1.H1.H1.H1.H2.H3.H1xZ18xZ11xZ13.H1.H1.H3.H1.HP.H1
  .H1.H3xZ19xZ11.H1.H1xZ11xZ15xZ15xZ11xZ13.H1.H1.H1.H1.H1.H1xZ11.H1.H1.H1.H2.H1.H1.H1.H1.H1.H1.H1.
  H1.H1.H1.H1.H1.H7.H1.H121k20na11qI2qI2qI1qI1qI3qI1na12na11qI2qI2qI1qI1qI1na11qI1qI1qI1qI1na11na1
  2qI3qI1qI1qI1qI1qI1qI1qI1qI2qI3qI1na18na11na13qI1qI1qI3qI1qIPqI1qI1qI3na19na11qI1qI1na11na15na15
  na11na13qI1qI1qI1qI1qI1qI1na11qI1qI1qI1qI2qI1qI1qI1qI1qI1qI1qI1qI1qI1qI1qI1qI1qI7qI1qI121k20oa11
  rI2rI2rI1rI1rI3rI1oa12oa11rI2rI2rI1rI1rI1oa11rI1rI1rI1rI1oa11oa12rI3rI1rI1rI1rI1rI1rI1rI1rI2rI3r
  I1oa18oa11oa13rI1rI1rI3rI1rIPrI1rI1rI3oa19oa11rI1rI1oa11oa15oa15oa11oa13rI1rI1rI1rI1rI1rI1oa11rI
  1rI1rI1rI2rI1rI1rI1rI1rI1rI1rI1rI1rI1rI1rI1rI1rI7rI1rI121k20ch11tH2tH2tH1tH1tH3tH1ch12ch11tH2tH2
  tH1tH1tH1ch11tH1tH1tH1tH1ch11ch12tH3tH1tH1tH1tH1tH1tH1tH1tH2tH3tH1ch18ch11ch13tH1tH1tH3tH1tHPtH1
  tH1tH3ch19ch11tH1tH1ch11ch15ch15ch11ch13tH1tH1tH1tH1tH1tH1ch11tH1tH1tH1tH2tH1tH1tH1tH1tH1tH1tH1t
  H1tH1tH1tH1tH1tH7tH1tH121k20Za11cI2cI2cI1cI1cI3cI1Za12Za11cI2cI2cI1cI1cI1Za11cI1cI1cI1cI1Za11Za1
  2cI3cI1cI1cI1cI1cI1cI1cI1cI2cI3cI1Za18Za11Za13cI1cI1cI3cI1cIPcI1cI1cI3Za19Za11cI1cI1Za11Za15Za15
  Za11Za13cI1cI1cI1cI1cI1cI1Za11cI1cI1cI1cI2cI1cI1cI1cI1cI1cI1cI1cI1cI1cI1cI1cI1cI7cI1cI121k20Zg11
  qG2qG2qG1qG1qG3qG1Zg12Zg11qG2qG2qG1qG1qG1Zg11qG1qG1qG1qG1Zg11Zg12qG3qG1qG1qG1qG1qG1qG1qG1qG2qG3q
  G1Zg18Zg11Zg13qG1qG1qG3qG1qGPqG1qG1qG3Zg19Zg11qG1qG1Zg11Zg15Zg15Zg11Zg13qG1qG1qG1qG1qG1qG1Zg11qG
  1qG1qG1qG2qG1qG1qG1qG1qG1qG1qG1qG1qG1qG1qG1qG1qG7qG1qG121k20ag11rG2rG2rG1rG1rG3rG1ag12ag11rG2rG2
  rG1rG1rG1ag11rG1rG1rG1rG1ag11ag12rG3rG1rG1rG1rG1rG1rG1rG1rG2rG3rG1ag18ag11ag13rG1rG1rG3rG1rGPrG1
  rG1rG3ag19ag11rG1rG1ag11ag15ag15ag11ag13rG1rG1rG1rG1rG1rG1ag11rG1rG1rG1rG2rG1rG1rG1rG1rG1rG1rG1r
  G1rG1rG1rG1rG1rG7rG1rG121k20bg11sG2sG2sG1sG1sG3sG1bg12bg11sG2sG2sG1sG1sG1bg11sG1sG1sG1sG1bg11bg1
  2sG3sG1sG1sG1sG1sG1sG1sG1sG2sG3sG1bg18bg11bg13sG1sG1sG3sG1sGPsG1sG1sG3bg19bg11sG1sG1bg11bg15bg15
  bg11bg13sG1sG1sG1sG1sG1sG1bg11sG1sG1sG1sG2sG1sG1sG1sG1sG1sG1sG1sG1sG1sG1sG1sG1sG7sG1sG121k20cg11
  tG2tG2tG1tG1tG3tG1cg12cg11tG2tG2tG1tG1tG1cg11tG1tG1tG1tG1cg11cg12tG3tG1tG1tG1tG1tG1tG1tG1tG2tG3t
  G1cg18cg11cg13tG1tG1tG3tG1tGPtG1tG1tG3cg19cg11tG1tG1cg11cg15cg15cg11cg13tG1tG1tG1tG1tG1tG1cg11tG
  1tG1tG1tG2tG1tG1tG1tG1tG1tG1tG1tG1tG1tG1tG1tG1tG7tG1tG12zKU4050309W890I020B0J0101010101010104010
  1W81010101010101010j10J02012zKU4050309X890I020B0J01010101010101040101X81010101010101010j10J02012
  i53C0u401012i53C0u401062T1k1qm26211k1.o36211k1ho26211k1fy36211k1cm26211k1wl36211k1fq26211k1qz362
  11k10621R1WZ2z1cBH06oB2pBX1YZ28dB3qBDk8CZZ21l82u9Kxk4y2ah530g1XW31wa31mX52Zc310101010108nX5Fjy25
  bX56215y9yu21zu21yv22wz2Dyv26213.9cw22X.2Dcw2120h21oJ2oJ3oJ1oJ3oJ1.j13oJ2oJ2oJ1oJ1oJ1.j12oJ1oJ1o
  J1.j11.j12oJ3oJ1oJ1oJ1oJ1oJ1oJ1oJ1oJ5oJ1.j18.j11.j13oJ1oJ1oJ3oJ1oJPoJ1oJ1oJ3.j19.j11oJ1oJ1.j11.j
  1411.j15.j11.j13oJ1oJ1oJ1oJ1oJ1oJ1.j11oJ1oJ1oJ1oJ2oJ1oJ1oJ1oJ1oJ1oJ1oJ1oJ1oJ1oJ1oJ1oJ1oJ7oJ1oJG1
  121f21pJ2pJ3pJ1pJ3pJ1_j13pJ2pJ2pJ1pJ1pJ1_j12pJ1pJ1pJ1_j11_j12pJ3pJ1pJ1pJ1pJ1pJ1pJ1pJ1pJ5pJ1_j18_
  j11_j13pJ1pJ1pJ3pJ1pJPpJ1pJ1pJ3_j19_j11pJ1pJ1_j11_j15_j15_j11_j13pJ1pJ1pJ1pJ1pJ1pJ1_j11pJ1pJ1pJ1
  pJ2pJ1pJ1pJ1pJ1pJ1pJ1pJ1pJ1pJ1pJ1pJ1pJ1pJ7pJ1pJ121f21qJ2qJ3qJ1qJ3qJ1Wk13qJ2qJ2qJ1qJ1qJ1Wk12qJ1qJ
  1qJ1Wk11Wk12qJ3qJ1qJ1qJ1qJ1qJ1qJ1qJ1qJ5qJ1Wk18Wk11Wk13qJ1qJ1qJ3qJ1qJPqJ1qJ1qJ3Wk19Wk11qJ1qJ1Wk11
  Wk15Wk15Wk11Wk13qJ1qJ1qJ1qJ1qJ1qJ1Wk11qJ1qJ1qJ1qJ2qJ1qJ1qJ1qJ1qJ1qJ1qJ1qJ1qJ1qJ1qJ1qJ1qJ7qJ1qJ12
  1f21e22e23e21e23e21mC3e22e22e21e21e21mC2e21e21e21mC1mC2e23e21e21e21e21e21e21e21e25e21mC8mC1mC3e2
  1e21e23e21e2Pe21e21e23mC9mC1e21e21mC1mC5mC5mC1mC3e21e21e21e21e21e21mC1e21e21e21e22e21e21e21e21e2
  1e21e21e21e21e21e21e21e27e21e2121012101210121012p4600508090J0y3012p4600508090J0y3062Bd21dg23xc17
  zb13ec16yd16rc1Jmd18w21x28df1Nlc12mc11aP1aPEm48Zd15yc14hg22iC1iC1iC1iC3Xf13nc17m41m41m41m41m41m4
  1hf1Cui21ff12sb11ic11m41m41tc1Ggz4n1Wp5X1Zx1A.j5T.t1G_t11bx11hy12iy16cx11dx12Yx11cx11Yx11Yx11hy1
  6Yx11Yx11Yx12Yx11ex11Yx11Yx11Yx11au12Yx13ne56Yx11Yx11cx11Yx11Yx11cx16213.9ez12fz1Dez162wMy11XZ23
  bT401030108090I020A01030101010101010101010101010101020101010101WT101XT1aK1aK1010101Z110101010101
  010104010EfZ2BYTF0AcZ2B0t4bZ32cZ3DbZ3FhX36213.9lZ32mZ3DlZ3621d21yf23vc17.b13fc16xd16sc1Jnd18c11d
  18ef1Noc12pc11bP1bPEl48ad15wc14_f22hC1hC1hC1hC3Yf13qc17l41l41l41l41l41l41if1Cvi21gf12tb11jc11l41
  l41uc1Gk.4n1zp5X1zk1Anm5T_j1GWk11_k11Ym12Zm16Wl11Xl12yk11Wl11yk11yk11Ym16yk11yk11yk12yk11Yl11yk1
  1yk11yk11Zk12yk13ye56yk11yk11Wl11yk11yk11Wl16213.9.m12_m1D.m1621d21eZ23ne17ud13_d16.d16ie1Jxe18s
  e11te18oh1Nbe12ce11xP1xPE.48qe15oe14gZ22aD1aD1aD1aD3eh13de17.41.41.41.41.41.41wh1CbZ21uh12qd11Ye
  11.41.41ke1Gt.4n1iq5X1ne3Asn5TxZ3GnX31eb31ff32gf36pe31qe32me31pe31me31me31ff36me31me31me32me31re
  31me31me31me31Zb32me33_e56me31me31pe31me31me31pe36213.9qf32rf3Dqf36215y9mY31ie31uZ42uh3DvZ462LM1
  Wj2Avd13We1d1fT1gT8ph1Nee12fe1X1hj28fh13ge1Dxh1Cwi21vh12rd14le1Gp_4y2Xp5j1Yh34ct3Shp35af56213.9c
  w22jt3Dcw26285y9f.21cY31os32Yb3Dps362QE1.i2k20f1ej2a1xi2s30i1yv22ip310101010108yv2Fmi36213.9cw22
  np3Dcw272P81qa3m1xq2d2b6a10Y502Xr3D0Fcv262141i8j1.t330l8fg46213k102yq2m8kr36211m1XZ4820f21h92h93
  h91h91h92h91_51_51_51h95h92_55_52_51h9B_54h91_51_52_52h93_51_53h91h91h91_51_51h91h9G_56_52_51h91
  h91h93_59_51h91h91_51_5411_55_51_53h91h91h91h91h91h91_51h91h91h91h91h91h91h91h91h91h91h91h91h91h
  91h91h91h91h94h9K1821d21i92i93i91i91i92i91W61W61W61i95i92W65W62W61i9BW64i91W61W62W62i93W61W63i91
  i91i91W61W61i91i9GW66W62W61i91i91i93W69W61i91i91W61W65W65W61W63i91i91i91i91i91i91W61i91i91i91i91
  i91i91i91i91i91i91i91i91i91i91i91i91i91i94i9821d21j92j93j91j91j92j91X61X61X61j95j92X65X62X61j9BX
  64j91X61X62X62j93X61X63j91j91j91X61X61j91j9GX66X62X61j91j91j93X69X61j91j91X61X65X65X61X63j91j91j
  91j91j91j91X61j91j91j91j91j91j91j91j91j91j91j91j91j91j91j91j91j91j94j96262k1eo3o8kh46251m1pm2621
  1m1po36232k1dy3o8sh46221m1Ym26211m1rk36232k1cl3o8.h46221m1en26211m1ut36232k1nz3o8ci46221m1bo2621
  1m1zx36211m1Xt26211m1Xf46211m1eq26211m1pz36212m10m8kq36211WApq362c181bf1Jk_2a3cf1a10Y502Yw1D0FYx
  16212Kyd1i9cw162c171hVt3iVa10Y502.v3D0FgY36213y9f.21cY33Yb36251WAkv26211WArz26211WAsz26212WAol47
  ov26211dApv26231WAjw36211WAXr36291WAvw36242dAex33cg46231WAkr36211WAzv26211WAxz262g171i8t3b6a10Y5
  02dg4D0Fcv26221WAzz26211WA.z26211WAlg462n171i8t3b6a10Y502ox3D0Fcv26221WAmg46211WAaw26211WAW.262D
  1WAfy36211WAkh36211WAlh36211WAmh36251WAsg46211WAtg46211WAew26211WAfw26211WAug46211WAxg46211WAyg4
  6211WAzg46211WAgw26211WAd.262b11WAmx16211WAnx16211WArx1621F.1cBY2dBGk8Dl8Mxk4y2ah5j1yu21zu23pz46
  fv21sx13fv2NbX58fv23fv26211dAux16231WAny16211WAoy162j271Wj1t3Xj1a10Y502fe3D0Fme36211WAge36231WAb
  z16211WAcz16211WAtz16211WAuz16211WAa.16211WAb.162Q1WAqY36211WArY36211WAvY3621F.1cBY2dBGk8Dl8Mxk4
  y2ah5j1yu21zu23c.46fv21wY33fv2NbX58fv23fv26211dAyY36231WAdZ36211WAeZ36281WAj.16211WAk.16231WAiZ3
  6211WAjZ36211WApZ36211WAqZ36211WAsZ36211WAtZ362c371Zf1t3af1a10Y502el1D0Fyk16211WAfl16211WAjl1621
  F.1cBY2dBGk8Dl8Mxk4y2ah5j1yu21zu23p.46fv21kl13fv2NbX58fv23fv26211dAml16231WAem16211WAfm16211WAxm
  16211WAym16211WAin16211WAjn16211WAvn16211WAwn162Z11WAve36211WAwe36211WAze3621F.1cBY2dBGk8Dl8Mxk4
  y2ah5j1yu21zu23x.46fv21.e33fv2NbX58fv23fv26211dAWf36231WAhf36211WAif36211WAnf36211WAof36211WAvf3
  6211WAwf36211WAyf36211WAzf362E2Kr.2i9fk162F1WAgk162x13y9XW31wa33Zc362j21WAkv26211WAiu36211WAju36
  21A.1cBY2dBGk8Dl8Mxk4y2ah5j1yu24o_47ov2QbX56211dApv26231WAzv26211WAdt36211WAet36211WAft36211WAaw
  26211WAit36211WAew26211WAfw26211WAgw26211WAnt362j11WAvZ36211WAwZ362J1WAyn16211WAzn162l21WAWt3624
  1WAzc46211WAbd462d31WAzv26211WAjp36211WAkp36211WAlp36211WAaw26211WAmp36271WAhd46221WAew26211WAfw
  262C1WAlh46221WAgw26211WAop36231WAot36211WAth46211WAtt36211WA_h46211WAyt36211WAdi46211WAXu36211W
  Acu36291WAkv26211WAvp36211WAwp362d45r2.K2_Ki1WLSnKX5s_46211dApv26261WAqi46241WA_i46221WAWj46221W
  AXj46211WAYj46211WAZj46211WAcj46211WAdj4920c21oX12tf21uk12oX14oX11mW11sn11dn36oX17t81hm1Irk18c31
  d34bg24ri2HvP9v81v84Z1H16sU1sU9L1Yg21cg21pz11pz12oX11av11av11av11.g21oX11oX11oX11oX11oX11oX11oX1
  1sLKkm1415.q3l1wg52mj42wg5Iew3Cwg51nj46uz26wd14bb33mj41nj41nj41mj41uz21uz24.q3Oup21mq2h1.q31.q31
  dd54.q31.q38wf45oj41pj4921S1qP2ZY23qP4qP3ok36qPd1cY24aZ2X2bY21dY21Xv11Xv12qP1Yq11Yq11Yq11kY21qP1
  qP1qP1qP1qP1qP1qPm3vy4Kvy41vy4_2wy4921O1pX12uf23pX14pX13gp36pX1d1eg24ti2X2ag21fg21qz11qz12pX11bv
  11bv11bv11_g21pX11pX11pX11pX11pX11pX11pX1921O1cL2lz13cL4cL3jm26cLd1nz14a.1X2mz11oz11Xr11Xr12cL1x
  m11xm11xm11zz11cL1cL1cL1cL1cL1cL1cL9211Dkp39211Dsm29261Dlq39251Dnq39271Djm2924N1.m12p.23.m14.m19
  .m1d1b_24ua3X2X_21c_21jg21jg22.m11lY21lY21lY21lX31.m11.m11.m11.m11.m11.m11.m19221Dwq3926ACoj31ln
  3Eza2f4jb29pt3k3pt3a2pt31pt35pt31pt324tDX11jx12012204090Q6563ay11by14040s1010A010101020101010101
  0101010101010r2v6X1w6b1b7441C1ko1Agb1Y1.c18010f4_e4Tti34ti340Qti370b1024261vv1q1t11u1k5dNX1aOb1s
  O2432DbZ1cBZz44432DbZ1cBZz42432DbZ1cBZz42431DcZ14431DcZ12431DcZ1231K1mQ7_h14hK1hKD6101hKChK6hK7c
  11d16nOX12c1yX1Y10_1uk1X1vk1b1er1f201023178jf14oE1oEFoECoE6oEEkC23178dK4vR1vRFvRCvR6vRr2z.123388
  Yb14616E616C666r2023118dK92Ff11qX12xf23qX14qX12fx11fx16qX180Vog24yi2X2gg21pg21wz11wz12qX11ev11ev
  11ev11oh21qX11qX11qX11qX11qX11qX11qX1L09ir3n1xW5X1yW5JxW51yW51yW51xW56ir3a2ir31ir35ir31ir3D01092
  16j5qt3k3qt3a2qt31qt35qt31qt324A88ZS50D6Evo1r12c10m701044A88ZS50D6Evo1r12c10m701024261vv1q1t11u1
  k5dNX1aOb1sO24181gx1C6R0Dw21x2k5ok1X1pk1b1cs12386Cii11ii1E010CvR6ii12485S0C060E_Bf362432D0Rcp144
  61e1cp124631nj2d1cp1y5si42471e1kp124448kt1N290Kun12463D0I2Tun14451e1kp12471e1kp124S61jt1q1010k50
  X10b1023458Yb1Mmo11fr1TnOf30434A1db37Yb1Mmo11fr190KnOf30t1gc34gc3Ugc323D68nr14oE10Rus16hKEbV430W
  24yL4yL1uC2uC1uC1uC8yL5uC1uC1uC2yL1uC9uC5uC1uC2yL2uCBuC3uC1uC1uC1uC1uC1uC1uC1uC1uC1uC1uC1uC1uC1u
  C1uC2yL1yL1yL1yL1yL1yL1yL1yL1yL1yL1yL1yL1yL1yL1uC1yL1uC1yL1uC1uC1yL1uC4uC1uC411uCKyLFuC3uCIuC114
  31.14t34t31a22a21a21a28t35a21a21a22t31a29a25a21a22t32a2Ba23a21a21a21a21a21a21a21a21a21a21a21a21a
  21a21a22t31t31t31t31t31t31t31t31t31t31t31t31t31t31a21t31a21t31a21a21t31a24a21a25a2Kt3Fa23a2Ia243
  1.14u34u31b22b21b21b28u35b21b21b22u31b29b25b21b22u32b2Bb23b21b21b21b21b21b21b21b21b21b21b21b21b2
  1b21b22u31u31u31u31u31u31u31u31u31u31u31u31u31u31b21u31b21u31b21b21u31b24b21b25b2Ku3Fb23b2Ib2431
  .14tL4tL1qC2qC1qC1qC8tL5qC1qC1qC2tL1qC9qC5qC1qC2tL2qCBqC3qC1qC1qC1qC1qC1qC1qC1qC1qC1qC1qC1qC1qC1
  qC1qC2tL1tL1tL1tL1tL1tL1tL1tL1tL1tL1tL1tL1tL1tL1qC1tL1qC1tL1qC1qC1tL1qC4qC1qC5qCKtLFqC3qCIqC431.
  14uL4uL1rC2rC1rC1rC8uL5rC1rC1rC2uL1rC9rC5rC1rC2uL2rCBrC3rC1rC1rC1rC1rC1rC1rC1rC1rC1rC1rC1rC1rC1r
  C1rC2uL1uL1uL1uL1uL1uL1uL1uL1uL1uL1uL1uL1uL1uL1rC1uL1rC1uL1rC1rC1uL1rC4rC1rC5rCKuLFrC3rCIrC431.1
  4vL4vL1sC2sC1sC1sC8vL5sC1sC1sC2vL1sC9sC5sC1sC2vL2sCBsC3sC1sC1sC1sC1sC1sC1sC1sC1sC1sC1sC1sC1sC1sC
  1sC2vL1vL1vL1vL1vL1vL1vL1vL1vL1vL1vL1vL1vL1vL1sC1vL1sC1vL1sC1sC1vL1sC4sC1sC5sCKvLFsC3sCIsC230W24
  84gc1153v115885_X1151528A55v1152x52nb1Ajj11kb13C1C1C1C1C1C1C1C1C1C1C1C1C1C1C28181818181x5181x518
  181818181_l1151815181515181545154115Z152v1J511Y3ju2p2sv24362V0r3Z34362V0r3a3434.14wL4wL1tC2tC1tC
  1tC8wL5tC1tC1tC2wL1tC9tC5tC1tC2wL2tCBtC3tC1tC1tC1tC1tC1tC1tC1tC1tC1tC1tC1tC1tC1tC1tC2wL1wL1wL1wL
  1wL1wL1wL1wL1wL1wL1wL1wL1wL1wL1tC1wL1tC1wL1tC1tC1wL1tC4tC1tC5tCKwLFtC3tCItC24E2DbZ1cBZz42411DcZ1
  43D78ot13616S060Exn1v2243118dK248M8nZ2451dZ1Dgd220CWM55102825Ayo115O8286da2c1xLH0H5b30p20Mfk41gk
  424J41086y26j1644M48ta140S0KeX124Q48ta140S0KeX123J38dj140Y162311e1_W223ECCxa1E5Jxa13eO2Xk1B5OeO2
  eO6hj1t1t2s30p2nv224d148ta140S0KeX123N1e1043E.14y44y41_82_81_81_88y45_81_81_82y41_89_85_81_82y42
  _8B_83_81_81_81_81_81_81_81_81_81_81_81_81_81_81_82y41y41y41y41y41y41y41y41y41y41y41y41y41y41_81
  y41_81y41_81_81y41_84_81_85_8K0F_83_8I_8431z14z44z41W92W91W91W98z45W91W91W92z41W99W95W91W92z42W9
  BW93W91W91W91W91W91W91W91W91W91W91W91W91W91W91W92z41z41z41z41z41z41z41z41z41z41z41z41z41z41W91z4
  1W91z41W91W91z41W94W91W95W9Z1W93W9IW924JEDv1Dwr11v110C060282pW2BnW2W1qx2d2v11v1b3j.2p2_Y324C2DbZ
  1cBZz424C2DbZ1cBZz444C1_5Zh424861pb3q1c31d3k5wh3X1do3b1iZ42441DcZ12441DcZ124b148ta140S0KeX124e13
  C0J0TeX123F58lt156R660Evn123118dK24J21nj2Z7si443HE8WV3515J5E53825A0P82868t1015e60120.11y52y53y51
  y53y51_N3y55y52_N5_X13y5Fy51_N5tc33_N1_N3y51y51y53y51y5G_N9y51y51y53ZY19_N1y51y51_N1_N411_N5_N1_
  N3y51y51y51y51y51y51_N1y51y51y51y52y51y51y51y51y51y51y51y51y51y51y51y51y5O1Y3_c1p2hX524X168aq1K0
  C060Eyo1f3523KA8gq14cy110E010C_m16cy128p2Zg3u5pZ523_1F10863ya1X1ya13fO5010VfO2fOE6j162_3m20X10b1
  0242BDcy1Et2D0604hn4h1ge3c10X1t21t2s40Y1uY323b16C51v1E01v1I02824548nv150I5Tw_123Q1e1023118dK2314
  8nt1N2F0Ewn123118dK2313V09vRKkC2313Umo11fr19023i291086i1010l16j16o20X10b1023FC8gq1301qY11qY1E01q
  Y1309qY16qY1Ejj1d2oo1I023428d.1W10120z11z82z83z81z83z81aR3z85z82aR5aR3z8Fz81aR8aR1aR3z81z81z83z8
  1z8GaR9z81z81z83aR9aR1z81z81aR1aR411aR5aR1aR3z81z81z81z81z81z81Wx21z81z81z81z82z81z81z81z81z81z8
  1z81z81z81z81z81z81z8O1Z3wd1Z3_b124Z168aq1K0C060Eyo1f3543w1A1ac37dK40F0Ikn4FkCZ40T_l44_l4U_l423H
  88px14mLGao4CmL60EYd1d2oo1u50120z11lD2lD3lD1lD3lD1lX13lD5lD2lX15lX12lX11lDFlD1lX15lD3lX11lX13lD1
  lD1lD3lD1lDGlX19lD1lD1lD3lX19lX11lD1lD1lX11lX1411lX15lX11lX13lD1lD1lD1lD1lD1lD1lX11lD1lD1lD1lD2l
  D1lD1lD1lD1lD1lD1lD1lD1lD1lD1lD1lD1lDO123M58gc130K0Tjj1v2023978jf14oE1oEFoECoE6oEEkC23978px14mL1
  mLFmLCmL6mLEYd123278dK4vR1vRFvRCvR6vRr2z.123278WV4dS1dSFdSCdS6dSr2fa223758gq14qY1Gcy1CqY1Kjj123O
  6C6X1632b1222z1024PA8_h14_31_3E_310C06022q3_31_323O6Cv110F0C06v1r2x523F18e.124E48nv150I5Tw_124Q3
  8mv1N0Tt_123618dK23418g.123Y158pv1J0D5K__1f3023218dK23118j.123118k.123118l.123118f.123K18WV43768
  sv13520R0KiW2v2523318m.123118h.124Z361jt1q1010k50X10b1023W11y1012V2v1fh3t2012Sx11aE2aE3aE1aE3aE1
  _Y13aE5aE2_Y15_Y12_Y11aEFaE1_Y1503_Y11_Y13aE1aE1aE3aE1aEG_Y19aE1aE1aE3_Y19_Y11aE1aE1_Y11_Y15_Y15
  _Y11_Y13aE1aE1aE1aE1aE1aE1_Y11aE1aE1aE1aE2aE1aE1aE1aE1aE1aE1aE1aE1aE1aE1aE1aE1aE24k168ZSK0C060E_
  Bf3623S7D0F_3Hya110d1fO2fOz1_3123w11bE2bE3bE1bE3bE1WZ13bE5bE2WZ15WZ12WZ11bEFbE1WZ18WZ11WZ13bE1bE
  1bE3bE1bEGWZ19bE1bE1bE3WZ19WZ11bE1bE1WZ11WZ15WZ15WZ11WZ13bE1bE1bE1bE1bE1bE1WZ11bE1bE1bE1bE2bE1bE
  1bE1bE1bE1bE1bE1bE1bE1bE1bE1bE1bE23X168WV4t2G0CdS6t2r2024q28B0H03a29060r20I0Ga224q28B0H03b29060r
  20I0Gb223Y11y1023X11y1023W11y1023848_h14hKShKKnO23748gc14xv2Y1xv2Ejj12375CZ3F0Da26Z3t302375Ca3F0
  Db26a3t3024V48mv14t2J0Tt_124A4RZ340b4Z31Z324A4Ra340b4a31a324K1e1cp124H48kt150I6Tun123c138WVq1Yd1
  d2023148kr1c152x5Css123148rv1N5F0EeW243878sv1351xa1F0X1iW2v25G023968pv155E0D5K__1f302471e1kp124I
  78aq150F0Cvo160Eyo1f3524T41086y26j1612Ow11dE2dE3dE1dE3dE1ra13dE5dE2ra15ra1201dEFdE1ra18ra11ra13d
  E1dE1dE3dE1dEGra19dE1dE1dE3ra19ra11dE1dE1ra11ra15ra15ra11ra13dE1dE1dE1dE1dE1dE1ra11dE1dE1dE1dE2d
  E1dE1dE1dE1dE1dE1dE1dE1dE1dE1dE1dE1dE2422D6R02442D5R012k25Q_NO0h1_Nj50p2024r37B0H0C060r20I0GuC23
  r16Cii11ii1E010CvR6ii124W36B0H0C060d30G_824T1q4024T1q4024t37B0H0C060r20I0GqC24t37B0H0C060r20I0Gr
  C24a36B0H0C060d30GW9129v11cE2cE3cE1cE3cE1uZ13cE5cE2uZ15uZ13cEFcE1uZ18uZ11uZ13cE1cE1cE3cE1cEGuZ19
  cE1cE1cE3uZ19uZ11cE1cE1uZ11uZ15uZ15uZ11uZ13cE1cE1cE1cE1cE1cE1uZ11cE1cE1cE1cE2cE1cE1cE1cE1cE1cE1c
  E1cE1cE1cE1cE1cE1cE24v37B0H0C060r20I0GsC23d168dK4_3G0CvR6_3r2024t37B0H0C060r20I0GtC24F18dK23348Y
  b14zv2Y1zv2EnO23448_h1W10KnOd2lO23R3C0Gv1I024T48ta14_3J0TeX123b14C51xa1R06024K38WVN5T024L18WV24Q
  1e1cp124Q1e1cp123Y12k102x524248kt1N690Kun124118dK2472D0l1w_143A78ot1361ya1F0X1xn1v26G023B68lt156
  E0D6Kvn1f302481e1kp12481e1kp124518nv123d158kr150R065Ess123148rv1N5F0EeW224Z11y1024f148ta140S0KeX
  123z26Crq11rq1E010C06rq12312e1dSK023D58Yb1Mmo11kq2TnOf3023858gc1Mwv11zo1Tjj1f3023c168nr14oE10Rus
  16hKEbV23478y.14mL10Hca2Aiv26qY1Ess123938WVN0TYd124a23CZ310I024a23Ca310I023V4C61ya1R0602335Ca2F0
  Ja2r2zJY102335Cb2F0Jb2r2.JY1024D11gc343M6C6X1632b1222z1043118dK24K1y1023O58dj150R066EbV23148nt1N
  6F0Ewn143S6B5G040TiW2v25G043118sv123H1y1062n6l1172zR1aS2747101hm11km167QhOD_R4XSH0b1oF1oFA.R1WS1
  iF1iF271z51z51z51ZD17171717171717j202020U0106qz2D01010101qz21qz2Stp21lq2_101023I38dj140Y1623I38k
  r140Y152321e1_W22321e1rm423M1e1023M2U8A023B38dKN0TkC23J2CZ3t3023J2Ca3t3062AACyl21mm2Eyl2f4mm29Yt
  3k3Yt3a2Yt31Yt35Yt31Yt3621ACza21jb2Eza2f4jb29pt3k3pt3a2pt31pt35pt31pt3621ACzl21Zm2Ezl2f4Zm29ut3k
  3ut3a2ut31ut35ut31ut3621AC.l21bq2E.l2f4bq29zt3k3zt3a2zt31zt35zt31zt3621AC_l21.q2E_l2f4.q29Yu3k3Y
  u3a2Yu31Yu35Yu31Yu324O41086y26j1624118dK24m13C0J0Tt_123F58lt156R660Evn123118dK24318mv123168pv155
  E0D5K__1f3023118WV43P1y1023I1y1023M1e1023118dK23148nt1N6F0Ewn123118dK2491y102323V09vRKkC2313Umo1
  1kq29023X148WV40F0X1Yd123C1y1023U2U8A023118WV23148rv1N5F0EeW223118WV23828d.1W1023238oZ2N0TYd162Q
  AC01uw1E0f4uw19by3k3by3a2by31by35by31by36212DtW2t4tW26212Dbu2t4bu223518e.123518qZ26232Daw1t4aw16
  212DY_1t4Y_16212Drm2t4rm26212Dew1t4ew16212Dk_1t4k_16212Dio2t4io26212DZw1t4Zw16212DW_1t4W_16212Dd
  m2t4dm26212Dgw1t4gw16212Dn_1t4n_16212Dgq2t4gq26212Dlw1t4lw16212DWW2t4WW26212DXr2t4Xr223H18g.123H
  18sZ223218dK23118j.123318uZ223218k.123218vZ223218l.123218wZ223218f.123218rZ223138WVW1dSK023e11y1
  023418m.123418xZ223218h.123218tZ223118WV23i11y1023h11y1023f11y1023118qZ223118sZ223118uZ223118vZ2
  23118wZ223118rZ223118xZ223118tZ262U8D0t409ir3k3ir3a2ir31ir35ir31ir362V2D0t406216j5at3k3at3a2at31
  at35at31at36216j5qt3k3qt3a2qt31qt35qt31qt36216j5vt3k3vt3a2vt31vt35vt31vt36216j5.t3k3.t3a2.t31.t3
  5.t31.t36216j5Zu3k3Zu3a2Zu31Zu35Zu31Zu3621d1371uo19_m3D01gk3Vfo147V0Njb11jb19yn11bo11do11Xb11Xb1
  2co1Cio11jo1S0b20Jgy26xq2401ti13vm23gy21gy21vk43kf41vk4Nfo21gq2h101010401vk48gf2Gti16214DWn3Esx1
  r7ui1k3ui1621a11gm12gm11rp42gm14gm13pp46gm18qp4Isp48up41vp44qh34gm1Qgx21gx2Rfx21fx29tp41nh31ph31
  el21el22oh31ga21ga21ga21rh31gm11gm11gm11gm11gm11gm11gm11sh31th3150q14Xu11st11Yu11Wu11ow11mt11Yp1
  1ij11_L1wq15_o11Wp11.o16B1BDBHhp11jp11ep1Y1BH1GL5B1to15is17ip17fp11gp1CB1B316le51Wh43fZ4BeZ41eZ4
  j1eZ43eZ42eZ4Rwd1IeZ49eZ41eZ41eZ41gZ42eZ42eZ42eZ43eZ4y1ne45fk41gk41512Dtq1cBZz41511Duq16254Dem3E
  hk3r7zi1k3zi16261Dlm31531Dvq16224Dbr3Eik3r7Wj1k3Wj16231Ddr31531Dxq16224Dvj4Ejk3r7Zj1k3Zj16231Dwj
  46214DYl4Ekk3r7bj1k3bj16221DZl4120p11bk12bk11tk12bk14bk11mW11gK1nn36bk1Qso18t11u14gW34bk1HvPV16w
  k11wk1Aj_21hW31Xh21Xh22bk11rY21rY21rY21iY31bk11bk11bk11bk11bk11bk11bk1P1q1wg52mj42wg5Uwg51nj46ri
  3Dmj41nj41nj41mj41ri31ri3Sop21dq2_1oj41pj4530p14xX15YL2YL1YL1YL8xX15g21YL1YL2xX11YL9YL5m21YL2xX1
  2l2Bvq2JYL1YL1xX11YL1YL1xX11YL1xX11xX11xX11xX11YL1YL1ct11YL1xX11YL1xX11YL1YL1YL1YL4YL1YL411o1Z1Y
  L3YLIYL11i2Yz4Ijo14wo1p2dk1122S1ck12ck13ck14ck13Zn36ck1d1YX34ck1X2u_21ZX31ah21ah22ck11sY21sY21sY
  21.Y31ck11ck11ck11ck11ck11ck11ck1m3vy4Kvy41vy4_2wy4121O1dk12dk13dk14dk13vm36dk1d1cX34dk1X2__21dX
  31fh21fh22dk11tY21tY21tY21_Y31dk11dk11dk11dk11dk11dk11dk1121O1ek12ek13ek14ek13jn36ek1d1eX34ek1X2
  WW31fX31gh21gh22ek11uY21uY21uY21WZ31ek11ek11ek11ek11ek11ek11ek1121O1fk12fk13fk14fk13tq36fk1d1hX3
  4fk1X2ZW31iX31hh21hh22fk11vY21vY21vY21XZ31fk11fk11fk11fk11fk11fk11fk1121O1gk12gk13gk14gk13Wr36gk
  1d1jX34gk1X2aW31kX31jh21jh22gk11wY21wY21wY21YZ31gk11gk11gk11gk11gk11gk11gk1540o14s45c52c51c51c58
  s41c54c51c53s41c51c58c55c53s42c5Bc5Jc51c51s41c51c51s41c51s41s41s41s41c51c51s41c51s41c51s41c51c51
  c51c54c51c5411c5Ks4Fc52c5Gc51c52c511541m14t45d52d51d51d58t41d54d51d53t41d51d58d55d53t42d5Bd5Jd51
  d51t41d51d51t41d51t41t41t41t41d51d51t41d51t41d51t41d51d51d51d54d51d55d5Kt4Fd52d5Gd51d52d515E58xd
  44B1BcB01015138ow14_e11_e153Am14x55v12v11v11v18x56v11v12x51v19v15v11v12x52kt2Bv1Jv11v11x51v11v11
  x51v11x51x51x51x51v11v12v11x51v11x51v11v11v11v14v11v15v1Z1v12v11v1Iv1j20I04rl1p2sl1531k14aV5cA2c
  A1cA1cA8aV6cA1cA2aV1cA9cA5cA1cA2aV2rg4BcAJcA1cA1aV1cA1cA1aV1cA1aV1aV1aV1aV1cA1cA2cA1aV1cA1aV1cA1
  cA1cA1cA4cA1cA5cAZ1cA2cA1cAIcAZ3tl1p2ul1531k14ZV5bA2bA1bA1bA8ZV6bA1bA2ZV1bA9bA5bA1bA2ZV2sg4BbAJb
  A1bA1ZV1bA1bA1ZV1bA1ZV1ZV1ZV1ZV1bA1bA2bA1ZV1bA1ZV1bA1bA1bA1bA4bA1bA5bAZ1bA2bA1bAIbAZ3vl1p2wl1531
  m14fK5t22t21t21t28fK5t21t21t22fK1t29t25t21t22fK2xt2Bt2Jt21t21fK1t21t21fK1t21fK1fK1fK1fK1t21t22t2
  1fK1t21fK1t21t21t21t24t21t25t2Z1t22t21t29la29t2Z30p2il1129X11hk12hk13hk14hk12fx11fx16hk1d1xX34hk
  1X2pX31yX31rh21rh22hk11xY21xY21xY21jZ31hk11hk11hk11hk11hk11hk11hk1l2xW5X1yW5JxW51yW51yW51xW5.201
  053Fh14c65j22j21j21j28c65j21j21j22c61j29j26j22c6W1j21j21c61j21j21c61j21c61c61c61c61j21j21c61j21c
  61j21c61j21j21j21j24j21j2e1j23j2Ij2Z30p20530n14h95_52_51_51_58h95_51_51_52h91_59_55_51_52h92_5B_
  5J_51_51h91_51_51h91_51h91h91h91h91_51_51h91_51h91_51h91_51_51_51_54_51_5411_5Kh9F_52_51_5I_5115
  31l14i95W62W61W61W68i95W61W61W62i91W69W65W61W62i92W6BW6JW61W61i91W61W61i91W61i91i91i91i91W61W61i
  91W61i91W61i91W61W61W61W64W61W65W6Ki9FW62W61W6IW6531l14j95X62X61X61X68j95X61X61X62j91X69X65X61X6
  2j92X6BX6JX61X61j91X61X61j91X61j91j91j91j91X61X61j91X61j91X61j91X61X61X61X64X61X65X6Kj9FX62X61X6
  IX6540n14r14vX11z22z21z21z28r15z21z21z22r11z29z25z21z22r12z2Bz2Jz21z21r11z21z21r11z21r11r11r11r1
  1z21z21r11z21r11z21r11z21z21z21z24z21z2411z2Z1z23z2Ghm22z21153E7M06c540Ec5d3c5F01053E7M06d540Ed5
  d3d5F010531m14lO5_32_31_31_38lO5_31_31_32lO1_39_35_31_32lO2_3B_3J_31_31lO1_31_31lO1_31lO1lO1lO1l
  O1_31_31lO1_31lO1_31lO1_31_31_31_34_31_35_3K0F_32_31_39_39_353A1.40531k14xB5d22d21d21d28xB5d21d2
  1d22xB1d29d25d21d22xB2d2Bd2Jd21d21xB1d21d21xB1d21xB1xB1xB1xB1d21d22d21xB1d21xB1d21d21d21d24d21d2
  5d2Z1d22d21d2Id2s5ol153Dl14sS5w82w81w81w88sS6w81w82sS1w89w85w81w82sS2og4Bw8Jw81w81sS1w81w81sS1w8
  1sS1sS1sS1sS1w81w81sS1w81sS1w81sS1w81w81w81w84w81w85w8Z1w82w81w8Iw8Z3pl1p20534l14kU5t92t91t91t98
  kU5t91t91t92kU1t99t95t91t92kU2t9Bt9Jt91t91kU1t91t91kU1t91kU1kU1kU1kU1t91t91kU1t91kU1t91kU1t91t91
  t91t94t91t95t9Z1t92t91t99t99t9531l14WK5X32X31X31X38WK5X31X31X32WK1X39X35X31X32WK2X3BX3JX31X31WK1
  X31X31WK1X31WK1WK1WK1WK1X31X31WK1X31WK1X31WK1X31X31X31X34X31X35X3Z1X32X31X39la29X35343z2xBX2kl2_
  50532k14ZK5r32r31r31r38ZK5r31r31r32ZK1r39r35r31r32ZK2r3Br3Jr31r31ZK1r31r31ZK1r31ZK1ZK1ZK1ZK1r31r
  31ZK1r31ZK1r31ZK1r31r31r31r34r31r35r3Z1r32r31r3Ir353F4j1j25j2Bj2t50536k14mK5q92q91q91q98mK6q91q9
  2mK1q99q95q91q92mK2q9Bq9Jq91q91mK1q91q91mK1q91mK1mK1mK1mK1q91q91mK1q91mK1q91mK1q91q91q91q94q91q9
  5q9Z1q9201q9Iq9Z3Yp1531j14eW15xJ2xJ1xJ1xJ8eW16xJ1xJ2eW11xJ9xJ5xJ1xJ2eW12xJBxJJxJ1xJ1eW11xJ1xJ1eW
  11xJ1eW11eW11eW11eW11xJ1xJ1eW11xJ1eW11xJ1eW11xJ1xJ1xJ1xJ4xJ1xJ5xJZ1xJ3xJIxJZ3bq1535k14gL5s72s71s
  71s78gL5s71s71s72gL1s79s75s71s72gL2s7Bs7Js71s71gL1s71s71gL1s71gL1gL1gL1gL1s71s71gL1s71gL1s71gL1s
  71s71s71s74s71s75s7Z1s73s7909s75313r2ln12.p1z1qo1531h14aZ15mJ2mJ1mJ1mJ8aZ15mJ1mJ1mJ2aZ11mJ9mJ5mJ
  1mJ2aZ12mJBmJJmJ1mJ1aZ11mJ1mJ2mJ2aZ11aZ11aZ11mJ1mJ1aZ11mJ1aZ11mJ1aZ11mJ1mJ1mJ1mJ4mJ1mJ5mJZ1mJ3mJ
  ImJ531l14l34vX11f12f11lm11f18l35f11f11f12l3109f15lm11f12uX12f1Bf1Jf11f11l31f11f11uX11f11uX11l31l
  31l31f11f11l31f11l31f11l31f11f11f11f14f11f15f1Z1f12a61f1If153.8W1804v1X1v13x52nb1Bkb130101010101
  0101010101010101010251525151x5151x5451585m1v1532k14b44cb11n12n11mm11n18b45n11n11n12b4An15mm11n12
  wX12n1Bn1Jn11n11b41n11n11wX11n11wX11b41b41b41n11n11b41n11b41n11b41n11n11n11n14n11n15n1Z1n12j81n1
  In15328CY8X1Y83gO25B5OgO2gOz1Y8531l14m35e12e11e11e18m35e11e11e12m3109e15e11e12m32e1Be1Je11e11m31
  e11e11m31e11m31m31m31m31e11e11m31e11m31e11m31e11e11e11e14e11e15e1K_JFe12k31e1Ie15312Z4iSHc8540m1
  4a15x12zc11x11x18a11x14x11x13a11x11x1Dx13a12hi4Bx1Jx11x11a11x11x11a11x11a11a11a11a11x11x11a11x11
  a11x11a11x11x11x11x14x11x1411x1Z1x1Ix11x12x111Ods15411o1ii45411o1x1536k14jS5Y92Y91Y91Y98jS5Y91Y9
  1Y92jS1Y99Y95Y91Y92jS2Y9BY9JY91Y91jS1Y91Y91jS1Y91jS1jS1jS1jS1Y91Y91jS1Y91jS1Y91jS1Y91Y91Y91Y94Y9
  1Y95Y9Z1Y92Y91Y9IY9531k14kS5Z92Z91Z91Z98kS5Z91Z91Z92kS1Z99Z95Z91Z92kS2Z9BZ9JZ91Z91kS1Z91Z91kS1Z9
  1kS1kS1kS1kS1Z91Z91kS1Z91kS1Z91kS1Z91Z91Z91Z94Z91Z95Z9Z1Z92Z91Z9IZ9531k14lS5a92a91a91a98lS5a91a9
  1a92lS1a99a95a91a92lS2a9Ba9Ja91a91lS1a91a91lS1a91lS1lS1lS1lS1a91a91lS1a91lS1a91lS1a91a91a91a94a9
  1a95a9Z1a92a91a9Ia9534BBtn1B06x1408x16x14ri4Z3x1F010Rfr15311o1si45311o1x154W1180535k14iU5eA2eA1e
  A1eA8iU5eA1eA1eA2iU1eA9eA5eA1eA2iU2eABeAJeA1eA1iU1eA1eA1iU1eA1iU1iU1iU1iU1eA1eA1iU1eA1iU1eA1iU1e
  A1eA1eA1eA4eA1eA5eAZ1eA2eA1eAIeA53P1.40531k14wJ5r22r21r21r28wJ5r21r21r22wJ1r29r25r21r22wJ2r2Br2J
  r21r21wJ1r21r21wJ1r21wJ1wJ1wJ1wJ1r21r21wJ1r21wJ1r21wJ1r21r21r21r24r21r25r2Z1r22r21r2Ir253S1.4053
  1k14tS5m92m91m91m98tS5m91m91m92tS1m99m95m91m92tS2pg4Bm9Jm91m91tS1m91m91tS1m91tS1tS1tS1tS1m91m91t
  S1m91tS1m91tS1m91m91m91m94m91m95m9Z1m92m91m9Im9531k14uI5s32s31s31s38uI5s31s31s32uI1s39s35s31s32u
  I2s3Bs3Js31s31uI1s31s31uI1s31uI1uI1uI1uI1s31s31uI1s31uI1s31uI1s31s31s31s34s31s35s3Z1s32s31s3Is35
  311j1Wd25350531k14uA5a62a61a61a68uA5a61a61a62uA1a69a65a61a62uA2a6Ba6Ja61a61uA1a61a61uA1a61uA1uA1
  uA1uA1a61a61uA1a61uA1a61uA1a61a61a61a64a61a65a6Z1a62a61a6Ia653p14Qv1Z2x5j50p20531k14.S5tA2tA1tA1
  tA8.S5tA1tA1tA2.S1tA9tA5tA1tA2.S2tg4BtAJtA1tA1.S1tA1tA1.S1tA1.S1.S1.S1.S1tA1tA1.S1tA1.S1tA1.S1tA
  1tA1tA1tA4tA1tA5tAZ1tA2tA1tAItA5321o1v1531k14_S5j82j81j81j88_S5j81j81j82_S1j89j85j81j82_S2j8Bj8J
  j81j81_S1j81j81_S1j81_S1_S1_S1_S1j81j81_S1j81_S1j81_S1j81j81j81j84j81j85j8Z1j82j81j8Ij8531k14pU5
  kA2kA1kA1kA8pU5kA1kA1kA2pU1kA9kA5kA1kA2pU2kABkAJkA1kA1pU1kA1kA1pU1kA1pU1pU1pU1pU1kA1kA1pU1kA1pU1
  kA1pU1kA1kA1kA1kA4kA1kA5kAZ1kA2kA1kAIkA53Vj14kW15n92n91n91n98kW15n91n91n92kW11n99n95n91n92kW12n9
  Bn9Jn91n91kW11n91n92n91kW11kW11kW11kW11n91n91kW11n91kW11n91kW11n91n91n91n94n91n95n9Z1n92n91n9In9
  53Se14gO5Y82Y82Y88gO5Y81Y81Y82gO1Y89Y86Y84Y8BY8JY81Y81gO1Y81Y82Y82gO1gO1gO1Y81Y81gO1Y81gO1Y81gO1
  Y81Y81Y81Y84Y81Y85Y8Z1Y83Y8IY8531k14uS5n82n81n81n88uS5n81n81n82uS1n89n85n81n82uS2n8Bn8Jn81n81uS1
  n81n81uS1n81uS1uS1uS1uS1n81n81uS1n81uS1n81uS1n81n81n81n84n81n85n8Z1n82n81n8In8531k14vS5y92y91y91
  y98vS5y91y91y92vS1y99y95y91y92vS2y9By9Jy91y91vS1y91y91vS1y91vS1vS1vS1vS1y91y91vS1y91vS1y91vS1y91
  y91y91y94y91y95y9Z1y92y91y9Iy953Z1h14oY15bB2bB1bB1bB8oY15bB1bB1bB2oY11bB9bB5bB1bB2oY12bBBbBJbB1b
  B1oY11bB1bB2bB2oY11oY11oY11bB1bB1oY11bB1oY11bB1oY11bB1bB1bB1bB4bB1bB5bBZ1bB3bBIbB53Dg14nY15WC2WC
  1WC1WC8nY15WC1WC1WC2nY11WC9WC6WC2nY12WCBWCJWC1WC1nY11WC1WC2WC2nY11nY11nY11WC1WC1nY11WC1nY11WC1nY
  11WC1WC1WC1WC4WC1WC5WCZ1WC3WCIWC531k14dU5w92w91w91w98dU5w91w91w92dU1w99w95w91w92dU2w9Bw9Jw91w91d
  U1w91w91dU1w91dU1dU1dU1dU1w91w91dU1w91dU1w91dU1w91w91w91w94w91w95w9Z1w92mi31w9Iw9532j14gU5aB2aB1
  aB1aB8gU5aB1aB1aB2gU1aB9aB6aB2gU2aBBaBJaB1aB1gU1aB1aB1gU1aB1gU1gU1gU1gU1aB1aB1gU1aB1gU1aB1gU1aB1
  aB1aB1aB4aB1aB5aBZ1aB2aB1aBIaB531k14_J5k32k31k31k38_J5k31k31k32_J1k39k35k31k32_J2k3Bk3Jk31k31_J1
  k31k31_J1k31_J1_J1_J1_J1k31k31_J1k31_J1k31_J1k31k31k31k34k31k35k3Z1k32k31k3Ik3531k14wS5z92z91z91
  z98wS5z91z91z92wS1z99z95z91z92wS2z9Bz9Jz91z91wS1z91z91wS1z91wS1wS1wS1wS1z91z91wS1z91wS1z91wS1z91
  z91z91z94z91z95z9Z1z92z91z9Iz95320531k14yA5e82e81e81e88yA5e81e81e82yA1e89e85e81e82yA2e8Be8Je81e8
  1yA1e81e81yA1e81yA1yA1yA1yA1e81e81yA1e81yA1e81yA1e81e81e81e84e81e85e8Z1e82e81e8Ie8531k14iS5c82c8
  1c81c88iS5c81c81c82iS1c89c85c81c82iS2c8Bc8Jc81c81iS1c81c81iS1c81iS1iS1iS1iS1c81c81iS1c81iS1c81iS
  1c81c81c81c84c81c85c8Z1c82c81c8Ic8531k14zS5t72t71t71t78zS5t71t71t72zS1t79t75t71t72zS2t7Bt7Jt71t7
  1zS1t71t71zS1t71zS1zS1zS1zS1t71t71zS1t71zS1t71zS1t71t71t71t74t71t75t7Z1t72t71t7It7531k14xS5r92r9
  1r91r98xS5r91r91r92xS1r99r95r91r92xS2r9Br9Jr91r91xS1r91r91xS1r91xS1xS1xS1xS1r91r91xS1r91xS1r91xS
  1r91r91r91r94r91r95r9Z1r92r91r9Ir9531k14eU5ZA2ZA1ZA1ZA8eU5ZA1ZA1ZA2eU1ZA9ZA5ZA1ZA2eU2ZABZAJZA1ZA
  1eU1ZA1ZA1eU1ZA1eU1eU1eU1eU1ZA1ZA1eU1ZA1eU1ZA1eU1ZA1ZA1ZA1ZA4ZA1ZA5ZAZ1ZA2ZA1ZAIZA531k14yS5s92s9
  1s91s98yS5s91s91s92yS1s99s95s91s92yS2s9Bs9Js91s91yS1s91s91yS1s91yS1yS1yS1yS1s91s91yS1s91yS1s91yS
  1s91s91s91s94s91s95s9Z1s92s91s9Is9531k14fU5aA2aA1aA1aA8fU5aA1aA1aA2fU1aA9aA5aA1aA2fU2aABaAJaA1aA
  1fU1aA1aA1fU1aA1fU1fU1fU1fU1aA1aA1fU1aA1fU1aA1fU1aA1aA1aA1aA4aA1aA5aAZ1aA2aA1aAIaA531k14jU5fA2fA
  1fA1fA8jU5fA1fA1fA2jU1fA9fA5fA1fA2jU2fABfAJfA1fA1jU1fA1fA1jU1fA1jU1jU1jU1jU1fA1fA1jU1fA1jU1fA1jU
  1fA1fA1fA1fA4fA1fA5fAZ1fA2fA1fAIfA531k14mU5hA2hA1hA1hA8mU5hA1hA1hA2mU1hA9hA5hA1hA2mU2hABhAJhA1hA
  1mU1hA1hA1mU1hA1mU1mU1mU1mU1hA1hA1mU1hA1mU1hA1mU1hA1hA1hA1hA4hA1hA5hAZ1hA2hA1hAIhA531k14cU5YA2YA
  1YA1YA8cU5YA1YA1YA2cU1YA9YA5YA1YA2cU2YABYAJYA1YA1cU1YA1YA1cU1YA1cU1cU1cU1cU1YA1YA1cU1YA1cU1YA1cU
  1YA1YA1YA1YA4YA1YA5YAZ1YA2YA1YAIYA531k14rJ5v32v31v31v38rJ5v31v31v32rJ1v39v35v31v32rJ2_v2Bv3Jv31v
  31rJ1v31v31rJ1v31rJ1rJ1rJ1rJ1v31v31rJ1v31rJ1v31rJ1v31v31v31v34v31v35v3Z1v32v31v3Iv3531k14zJ5Z32Z
  31Z31Z38zJ5Z31Z31Z32zJ1Z39Z35Z31Z32zJ2Z3BZ3JZ31Z31zJ1Z31Z31zJ1Z31zJ1zJ1zJ1zJ1Z31Z31zJ1Z31zJ1Z31z
  J1Z31Z31Z31Z34Z31Z35Z3Z1Z32Z31Z3IZ3531k14.J5a32a31a31a38.J5a31a31a32.J1a39a35a31a32.J2a3Ba3Ja31a
  31.J1a31a31.J1a31.J1.J1.J1.J1a31a31.J1a31.J1a31.J1a31a31a31a34a31a35a3Z1a32a31a3Ia35331o1Ww2531k
  14oK5Y42Y41Y41Y48oK5Y41Y41Y42oK1Y49Y45Y41Y42oK2Y4BY4JY41Y41oK1Y41Y41oK1Y41oK1oK1oK1oK1Y41Y41oK1Y
  41oK1Y41oK1Y41Y41Y41Y44Y41Y45Y4Z1Y42Y41Y4IY45313r2ln12.p1z1qo1531k14WU5k92k91k91k98WU5k91k91k92W
  U1k99k95k91k92WU2k9Bk9Jk91k91WU1k91k91WU1k91WU1WU1WU1WU1k91k91WU1k91WU1k91WU1k91k91k91k94k91k95k
  9Z1k92k91k9Ik953505370531k14XU5l92l91l91l98XU5l91l91l92XU1l99l95l91l92XU2l9Bl9Jl91l91XU1l91l91XU
  1l91XU1XU1XU1XU1l91l91XU1l91XU1l91XU1l91l91l91l94l91l95l9Z1l92l91l9Il9531k14qU5lA2lA1lA1lA8qU5lA
  1lA1lA2qU1lA9lA5lA1lA2qU2lABlAJlA1lA1qU1lA1lA1qU1lA1qU1qU1qU1qU1lA1lA1qU1lA1qU1lA1qU1lA1lA1lA1lA
  4lA1lA5lAZ1lA2lA1lAIlA536j14lW15o92o91o91o98lW15o91o91o92lW11o99o95o91o92lW12o9Bo9Jo91o91lW11o91
  o92o91lW11lW11lW11lW11o91o91lW11o91lW11o91lW11o91o91o91o94o91o95o9Z1o92o91o9Io9531k14lU5gA2gA1gA
  1gA8lU5gA1gA1gA2lU1gA9gA5gA1gA2lU2gABgAJgA1gA1lU1gA1gA1lU1gA1lU1lU1lU1lU1gA1gA1lU1gA1lU1gA1lU1gA
  1gA1gA1gA4gA1gA5gAZ1gA2gA1gAIgA531k14zA5f82f81f81f88zA5f81f81f82zA1f89f85f81f82zA2f8Bf8Jf81f81zA
  1f81f81zA1f81zA1zA1zA1zA1f81f81zA1f81zA1f81zA1f81f81f81f84f81f85f8Z1f82f81f8If8531k14gB5z12z11z1
  1z18gB5z11z11z12gB1z19z15z11z12gB2z1Bz1Jz11z11gB1z11z11gB1z11gB1gB1gB1gB1z11z11gB1z11gB1z11gB1z1
  1z11z11z14z11z15z1Z1z12z11z1Iz1531k14hB5.12.11.11.18hB5.11.11.12hB1.19.15.11.12hB2.1B.1J.11.11hB
  1.11.11hB1.11hB1hB1hB1hB1.11.11hB1.11hB1.11hB1.11.11.11.14.11.15.1Z1.12.11.1I.1531k14tJ5g32g31g3
  1g38tJ5g31g31g32tJ1g39g35g31g32tJ2g3Bg3Jg31g31tJ1g31g31tJ1g31tJ1tJ1tJ1tJ1g31g31tJ1g31tJ1g31tJ1g3
  1g31g31g34g31g35g3Z1g32g31g3Ig3531k14sJ5f32f31f31f38sJ5f31f31f32sJ1f39f35f31f32sJ2f3Bf3Jf31f31sJ
  1f31f31sJ1f31sJ1sJ1sJ1sJ1f31f31sJ1f31sJ1f31sJ1f31f31f31f34f31f35f3Z1f32f31f3If353205320531k14vJ5
  i32i31i31i38vJ5i31i31i32vJ1i39i35i31i32vJ2i3Bi3Ji31i31vJ1i31i31vJ1i31vJ1vJ1vJ1vJ1i31i31vJ1i31vJ1
  i31vJ1i31i31i31i34i31i35i3Z1i32i31i3Ii353605320532053A0531k14uJ5h32h31h31h38uJ5h31h31h32uJ1h39h3
  5h31h32uJ2h3Bh3Jh31h31uJ1h31h31uJ1h31uJ1uJ1uJ1uJ1h31h31uJ1h31uJ1h31uJ1h31h31h31h34h31h35h3Z1h32h
  31h3Ih353205320531k14nU5iA2iA1iA1iA8nU5iA1iA1iA2nU1iA9iA5iA1iA2nU2iABiAJiA1iA1nU1iA1iA1nU1iA1nU1
  nU1nU1nU1iA1iA1nU1iA1nU1iA1nU1iA1iA1iA1iA4iA1iA5iAZ1iA2iA1iAIiA531k14YU5.92.91.91.98YU5.91.91.92
  YU1.99.95.91.92YU2.9B.9J.91.91YU1.91.91YU1.91YU1YU1YU1YU1.91.91YU1.91YU1.91YU1.91.91.91.94.91.95
  .9Z1.92.91.9I.953Ph14jY15WB2WB1WB1WB8jY15WB1WB1WB2jY11WB9WB5WB1WB2jY12WBBWBJWB1WB1jY11WB1WB2WB2j
  Y11jY11jY11WB1WB1jY11WB1jY11WB1jY11WB1WB1WB1WB4WB1WB5WBZ1WB3WBIWB531k14hU5dA2dA1dA1dA8hU5dA1dA1d
  A2hU1dA9dA5dA1dA2hU2dABdAJdA1dA1hU1dA1dA1hU1dA1hU1hU1hU1hU1dA1dA1hU1dA1hU1dA1hU1dA1dA1dA1dA4dA1d
  A5dAZ1dA2dA1dAIdA531k14pK5Z42Z41Z41Z48pK5Z41Z41Z42pK1Z49Z45Z41Z42pK2Z4BZ4JZ41Z41pK1Z41Z41pK1Z41p
  K1pK1pK1pK1Z41Z41pK1Z41pK1Z41pK1Z41Z41Z41Z44Z41Z45Z4Z1Z42Z41Z4IZ45313r2ln12.p1z1qo1531k14.A5g82g
  81g81g88.A5g81g81g82.A1g89g85g81g82.A2g8Bg8Jg81g81.A1g81g81.A1g81.A1.A1.A1.A1g81g81.A1g81.A1g81.
  A1g81g81g81g84g81g85g8Z1g82g81g8Ig8531k14z75g12g11g11g18z75g11g11g12z71g19g15g11g12z72g1Bg1Jg11g
  11z71g11g11z71g11z71z71z71z71g11g11z71g11z71g11z71g11g11g11g14g11g15g1Z1g12g11g1Ig1531k14iB5_12_
  11_11_18iB5_11_11_12iB1_19_15_11_12iB2_1B_1J_11_11iB1_11_11iB1_11iB1iB1iB1iB1_11_11iB1_11iB1_11i
  B1_11_11_11_14_11_15_1Z1_12_11_1I_153105310534053105310531k14jB5W22W21W21W28jB5W21W21W22jB1W29W2
  5W21W22jB2W2BW2JW21W21jB1W21W21jB1W21jB1jB1jB1jB1W21W21jB1W21jB1W21jB1W21W21W21W24W21W25W2Z1W22W
  21W2IW253105310531k14oU5jA2jA1jA1jA8oU5jA1jA1jA2oU1jA9jA5jA1jA2oU2jABjAJjA1jA1oU1jA1jA1oU1jA1oU1
  oU1oU1oU1jA1jA1oU1jA1oU1jA1oU1jA1jA1jA1jA4jA1jA5jAZ1jA2jA1jAIjA531k14ZU5_92_91_91_98ZU5_91_91_92
  ZU1_99_95_91_92ZU2_9B_9J_91_91ZU1_91_91ZU1_91ZU1ZU1ZU1ZU1_91_91ZU1_91ZU1_91ZU1_91_91_91_94_91_95
  _9Z1_92_91_9I_9531k14aU5WA2WA1WA1WA8aU5WA1WA1WA2aU1WA9WA5WA1WA2aU2WABWAJWA1WA1aU1WA1WA1aU1WA1aU1
  aU1aU1aU1WA1WA1aU1WA1aU1WA1aU1WA1WA1WA1WA4WA1WA5WAZ1WA2WA1WAIWA531k14_A5h82h81h81h88_A5h81h81h82
  _A1h89h85h81h82_A2h8Bh8Jh81h81_A1h81h81_A1h81_A1_A1_A1_A1h81h81_A1h81_A1h81_A1h81h81h81h84h81h85
  h8Z1h82h81h8Ih8531k14.75h12h11h11h18.75h11h11h12.71h19h15h11h12.72h1Bh1Jh11h11.71h11h11.71h11.71
  .71.71.71h11h11.71h11.71h11.71h11h11h11h14h11h15h1Z1h12h11h1Ih1531053105310531k14kB5X22X21X21X28
  kB5X21X21X22kB1X29X25X21X22kB2X2BX2JX21X21kB1X21X21kB1X21kB1kB1kB1kB1X21X21kB1X21kB1X21kB1X21X21
  X21X24X21X25X2Z1X22X21X2IX253105310531k14lB5Y22Y21Y21Y28lB5Y21Y21Y22lB1Y29Y25Y21Y22lB2Y2BY2JY21Y
  21lB1Y21Y21lB1Y21lB1lB1lB1lB1Y21Y21lB1Y21lB1Y21lB1Y21Y21Y21Y24Y21Y25Y2Z1Y22Y21Y2IY253105310531k1
  4bU5XA2XA1XA1XA8bU5XA1XA1XA2bU1XA9XA5XA1XA2bU2XABXAJXA1XA1bU1XA1XA1bU1XA1bU1bU1bU1bU1XA1XA1bU1XA
  1bU1XA1bU1XA1XA1XA1XA4XA1XA5XAZ1XA2XA1XAIXA53Rh14kY15XB2XB1XB1XB8kY15XB1XB1XB2kY11XB9XB5XB1XB2kY
  12XBBXBJXB1XB1kY11XB1XB2XB2kY11kY11kY11XB1XB1kY11XB1kY11XB1kY11XB1XB1XB1XB4XB1XB5XBZ1XB3XBIXB53t
  31.40532h14mY15ZB2ZB1ZB1ZB8mY15ZB1ZB1ZB2mY11ZB9ZB5ZB1ZB2mY12ZBBZBJZB1ZB1mY11ZB1ZB2ZB2mY11mY11mY1
  1ZB1ZB1mY11ZB1mY11ZB1mY11ZB1ZB1ZB1ZB4ZB1ZB5ZBZ1ZB3ZBIZB531h14lY15YB2YB1YB1YB8lY15YB1YB1YB2lY11YB
  9YB5YB1YB2lY12YBBYBJYB1YB1lY11YB1YB2YB2lY11lY11lY11YB1YB1lY11YB1lY11YB1lY11YB1YB1YB1YB4YB1YB5YBZ
  1YB3YBIYB54a3k14T5c22c21c21c28T5c21c21c22T1c29c25c21c22T2c2Bc2Jc21c21T1c21c21T1c21T1T1T1T1c21c21
  T1c21T1c21T1c21c21c21c24c21c25c2Z1c23c2Gym32c253n378WV45X1538b1828z1054v4GB0Fg620C05.8104u8Bnq2W
  1bt1Io3c10GYLl2_j4IgW24.W2p2Ww115y4i14ib14p94_L1wq1DB1BDB5d8DYk1U0104BNtU1tU90171Yr11kT1kT1B1717
  17179010JB1BW3yz26050303yz21yz2103010N01sq2o10805fk41gk4A053318053.32l3j2t4053z4j14x85h4201h41h4
  8x86h41h42x8109h46h42x8Dp1Jh41h41x81h41h41x81h41x81x81x81x81h41h41hf31h41x81h41x81h41h41h41h44b1
  1b15h4Z1h430Ih4_204ho1p2ck1531a14v95n43b51b58p46b51b52v9Ab56b52v9W1b51b51v91b51b51v91b51v91v91v9
  1v91b51b51Wf31b51v91b51v91b51b51b51b5Ab5Z1o4Lb5531X14_48pR1pREpR1pR2e5ApR6pR2e5W1YD1bD1aC1a51a51
  jC1lC1pC1Y51Y51_41.B1vB1XC1s21g51i51g51i51s21eD1s2ApRu1fD534j14qV5WJ2WJ1WJ1WJ8qV5WJ1WJ1WJ2qV1WJ9
  WJ5WJ1WJ2qV2WJBWJJWJ1WJ1qV1WJ1WJ1qV1WJ1qV1qV1qV1qV1WJ1WJ1qV1WJ1qV1WJ1qV1WJ1WJ1WJ1WJ4WJ1WJ5WJZ1WJ
  3WJIWJ531j14tT5xD2xD1xD1xD8tT5xD1xD1xD2tT1xD9xD5xD1xD2tT2xDBxDJxD1xD1tT1xD1xD1tT1xD1tT1tT1tT1tT1
  xD1xD1tT1xD1tT1xD1tT1xD1xD1xD1xD4xD1xD5xDZ1xD3xDIxD533c14y85x33x31x38y86x31x32y8Ax36x32y8W1x31x3
  1y81x31x31y81x31y81y81y81y81x31x31qf31x31y81x31y81x31x31x31x34x31x35x3Z1x3Lx3532j14r85k22k21k21k
  28r85k21k21k22r81k29k25k21k22r82k2Bk2Jk21k21r81k21k21r81k21r81r81r81r81k21k21r81k21r81k21r81k21k
  21k21k24k21k25k2Z1k23k2Ik253x33Ve1a30H0531j14gW15iJ2iJ1iJ1iJ8gW15iJ1iJ1iJ2gW11iJ9iJ5iJ1iJ2gW12iJ
  BiJJiJ1iJ1gW11iJ1iJ1gW11iJ1gW11gW11gW11gW11iJ1iJ1gW11iJ1gW11iJ1gW11iJ1iJ1iJ1iJ4iJ1iJ5iJZ1iJ3iJIi
  J5320531j14oT5sD2sD1sD1sD8oT5sD1sD1sD2oT1sD9sD5sD1sD2oT2sDBsDJsD1sD1oT1sD1sD1oT1sD1oT1oT1oT1oT1s
  D1sD1oT1sD1oT1sD1oT1sD1sD1sD1sD4sD1sD5sDZ1sD3sDIsD531j14.V5nA2nA1nA1nA8.V5nA1nA1nA2.V1nA9nA5nA1n
  A2.V2nABnAJnA1nA1.V1nA1nA1.V1nA1.V1.V1.V1.V1nA1nA1.V1nA1.V1nA1.V1nA1nA1nA1nA4nA1nA5nAZ1nA3nAInA5
  3A7CnA1nAEnA1nACnA6nAX2nA5317ChQ1hQEhQ1hQChQ6hQX2hQ533j14jW15lJ2lJ1lJ1lJ8jW15lJ1lJ1lJ2jW11lJ9lJ5
  lJ1lJ2jW12lJBlJJlJ1lJ1jW11lJ1lJ1jW11lJ1jW11jW11jW11jW11lJ1lJ1jW11lJ1jW11lJ1jW11lJ1lJ1lJ1lJ4lJ1lJ
  5lJZ1lJ3lJIlJ531j14mV5qF2qF1qF1qF8mV5qF1qF1qF2mV1qF9qF5qF1qF2mV2qFBqFJqF1qF1mV1qF1qF1mV1qF1mV1mV
  1mV1mV1qF1qF1mV1qF1mV1qF1mV1qF1qF1qF1qF4qF1qF5qFZ1qF3qFIqF5337CqR1qREqR1qRCqR6qRX2qR532j14YP5rB2
  rB1rB1rB8YP5rB1rB1rB2YP1rB9rB5rB1rB2YP2rBBrBJrB1rB1YP1rB1rB1YP1rB1YP1YP1YP1YP1rB1rB1YP1rB1YP1rB1
  YP1rB1rB1rB1rB4rB1rB5rBZ1rB3rBIrB531j14_25Y62Y61Y61Y68_25Y61Y61Y62_21Y69Y65Y61Y62_22Y6BY6JY61Y61
  _21Y61Y61_21Y61_21_21_21_21Y61Y61_21Y61_21Y61_21Y61Y61Y61Y64Y61Y65Y6Z1Y63Y6IY6531j14lK5Y72Y71Y71
  Y78lK5Y71Y71Y72lK1Y79Y75Y71Y72lK2Y7BY7JY71Y71lK1Y71Y71lK1Y71lK1lK1lK1lK1Y71Y71lK1Y71lK1Y71lK1Y71
  Y71Y71Y74Y71Y75Y7Z1Y73Y7IY7531j14rV5XJ2XJ1XJ1XJ8rV5XJ1XJ1XJ2rV1XJ9XJ5XJ1XJ2rV2XJBXJJXJ1XJ1rV1XJ1
  XJ1rV1XJ1rV1rV1rV1rV1XJ1XJ1rV1XJ1rV1XJ1rV1XJ1XJ1XJ1XJ4XJ1XJ5XJZ1XJ3XJIXJ531j14wV5ZJ2ZJ1ZJ1ZJ8wV5
  ZJ1ZJ1ZJ2wV1ZJ9ZJ5ZJ1ZJ2wV2ZJBZJJZJ1ZJ1wV1ZJ1ZJ1wV1ZJ1wV1wV1wV1wV1ZJ1ZJ1wV1ZJ1wV1ZJ1wV1ZJ1ZJ1ZJ1
  ZJ4ZJ1ZJ5ZJZ1ZJ3ZJIZJ531j14dW15gJ2gJ1gJ1gJ8dW15gJ1gJ1gJ2dW11gJ9gJ5gJ1gJ2dW12gJBgJJgJ1gJ1dW11gJ1g
  J1dW11gJ1dW11dW11dW11dW11gJ1gJ1dW11gJ1dW11gJ1dW11gJ1gJ1gJ1gJ4gJ1gJ5gJZ1gJ3gJIgJ531j14uT5yD2yD1yD
  1yD8uT5yD1yD1yD2uT1yD9yD5yD1yD2uT2yDByDJyD1yD1uT1yD1yD1uT1yD1uT1uT1uT1uT1yD1yD1uT1yD1uT1yD1uT1yD
  1yD1yD1yD4yD1yD5yDZ1yD3yDIyD531j14vT5zD2zD1zD1zD8vT5zD1zD1zD2vT1zD9zD5zD1zD2vT2zDBzDJzD1zD1vT1zD
  1zD1vT1zD1vT1vT1vT1vT1zD1zD1vT1zD1vT1zD1vT1zD1zD1zD1zD4zD1zD5zDZ1zD3zDIzD531j14hW15jJ2jJ1jJ1jJ8h
  W15jJ1jJ1jJ2hW11jJ9jJ5jJ1jJ2hW12jJBjJJjJ1jJ1hW11jJ1jJ1hW11jJ1hW11hW11hW11hW11jJ1jJ1hW11jJ1hW11jJ
  1hW11jJ1jJ1jJ1jJ4jJ1jJ5jJZ1jJ3jJIjJ53A7CzP1zPEzP1zPCzP6zPX2zP532j14_V5oA2oA1oA1oA8_V5oA1oA1oA2_V
  1oA9oA5oA1oA2_V2oABoAJoA1oA1_V1oA1oA1_V1oA1_V1_V1_V1_V1oA1oA1_V1oA1_V1oA1_V1oA1oA1oA1oA4oA1oA5oA
  Z1oA3oAIoA5327CoA1oAEoA1oACoA6oAX2oA531Q9D3D1D8R6D1D2RAD6D2RW1D1D4R1D1R7D1R1D1R1D1D1D1DADZ1DLD53
  3j14aW15dJ2dJ1dJ1dJ8aW15dJ1dJ1dJ2aW11dJ9dJ5dJ1dJ2aW12dJBdJJdJ1dJ1aW11dJ1dJ1aW11dJ1aW11aW11aW11aW
  11dJ1dJ1aW11dJ1aW11dJ1aW11dJ1dJ1dJ1dJ4dJ1dJ5dJZ1dJ3dJIdJ53294Rk2R1D1D4R1R1R1D2q.1533CUe5Ie5b1jC1
  lC1pC7s21g51i51g51i51s22s25311m2YD5354o2R1D1D9q.15333r2R1D1R5311r2jC5311s2lC5342u2R1R53839n4Cp4z
  3o453g17CnPJ0EnP3lHb1lH2lHz1r25316C.e1X1.e13kVb1kV2kVz1X35374_2R1D1R1D53A1n2bD53Ej14bW15eJ2eJ1eJ
  1eJ8bW15eJ1eJ1eJ2bW11eJ9eJ5eJ1eJ2bW12eJBeJJeJ1eJ1bW11eJ1eJ1bW11eJ1bW11bW11bW11bW11eJ1eJ1bW11eJ1b
  W11eJ1bW11eJ1eJ1eJ1eJ4eJ1eJ5eJZ1eJ3eJIeJ531j14qT5uD2uD1uD1uD8qT5uD1uD1uD2qT1uD9uD5uD1uD2qT2uDBuD
  JuD1uD1qT1uD1uD1qT1uD1qT1qT1qT1qT1uD1uD1qT1uD1qT1uD1qT1uD1uD1uD1uD4uD1uD5uDZ1uD3uDIuD531j14pT5tD
  2tD1tD1tD8pT5tD1tD1tD2pT1tD9tD5tD1tD2pT2tDBtDJtD1tD1pT1tD1tD1pT1tD1pT1pT1pT1pT1tD1tD1pT1tD1pT1tD
  1pT1tD1tD1tD1tD4tD1tD5tDZ1tD3tDItD531j14WW15pA2pA1pA1pA8WW15pA1pA1pA2WW11pA9pA5pA1pA2WW12pABpAJp
  A1pA1WW11pA1pA1WW11pA1WW11WW11WW11WW11pA1pA1WW11pA1WW11pA1WW11pA1pA1pA1pA4pA1pA5pAZ1pA3pAIpA53K7
  CpA1pAEpA1pACpA6pAX2pA5317CtR1tREtR1tRCtR6tRX2tR53V0531j14oV5sF2sF1sF1sF8oV5sF1sF1sF2oV1sF9sF5sF
  1sF2oV2sFBsFJsF1sF1oV1sF1sF1oV1sF1oV1oV1oV1oV1sF1sF1oV1sF1oV1sF1oV1sF1sF1sF1sF4sF1sF5sFZ1sF3sFIs
  F531j14nV5rF2rF1rF1rF8nV5rF1rF1rF2nV1rF9rF5rF1rF2nV2rFBrFJrF1rF1nV1rF1rF1nV1rF1nV1nV1nV1nV1rF1rF
  1nV1rF1nV1rF1nV1rF1rF1rF1rF4rF1rF5rFZ1rF3rFIrF531j14wE5X72X71X71X78wE5X71X71X72wE1X79X75X71X72wE
  2X7BX7JX71X71wE1X71X71wE1X71wE1wE1wE1wE1X71X71wE1X71wE1X71wE1X71X71X71X74X71X75X7Z1X73X7IX7531j1
  4pV5_I2_I1_I1_I8pV5_I1_I1_I2pV1_I9_I5_I1_I2pV2_IB_IJ_I1_I1pV1_I1_I1pV1_I1pV1pV1pV1pV1_I1_I1pV1_I
  1pV1_I1pV1_I1_I1_I1_I4_I1_I5_IZ1_I3_II_I531j14W35Z62Z61Z61Z68W35Z61Z61Z62W31Z69Z65Z61Z62W32Z6BZ6
  JZ61Z61W31Z61Z61W31Z61W31W31W31W31Z61Z61W31Z61W31Z61W31Z61Z61Z61Z64Z61Z65Z6Z1Z63Z6IZ6531j14sV5YJ
  2YJ1YJ1YJ8sV5YJ1YJ1YJ2sV1YJ9YJ5YJ1YJ2sV2YJBYJJYJ1YJ1sV1YJ1YJ1sV1YJ1sV1sV1sV1sV1YJ1YJ1sV1YJ1sV1YJ
  1sV1YJ1YJ1YJ1YJ4YJ1YJ5YJZ1YJ3YJIYJ531j14XW15qA2qA1qA1qA8XW15qA1qA1qA2XW11qA9qA5qA1qA2XW12qABqAJq
  A1qA1XW11qA1qA1XW11qA1XW11XW11XW11XW11qA1qA1XW11qA1XW11qA1XW11qA1qA1qA1qA4qA1qA5qAZ1qA3qAIqA5397
  CqA1qAEqA1qACqA6qAX2qA532j14xV5aJ2aJ1aJ1aJ8xV5aJ1aJ1aJ2xV1aJ9aJ5aJ1aJ2xV2aJBaJJaJ1aJ1xV1aJ1aJ1xV
  1aJ1xV1xV1xV1xV1aJ1aJ1xV1aJ1xV1aJ1xV1aJ1aJ1aJ1aJ4aJ1aJ5aJZ1aJ3aJIaJ531j14YW15rA2rA1rA1rA8YW15rA1
  rA1rA2YW11rA9rA5rA1rA2YW12rABrAJrA1rA1YW11rA1rA1YW11rA1YW11YW11YW11YW11rA1rA1YW11rA1YW11rA1YW11r
  A1rA1rA1rA4rA1rA5rAZ1rA3rAIrA5337CrA1rAErA1rACrA6rAX2rA532j14ZW15sA2sA1sA1sA8ZW15sA1sA1sA2ZW11sA
  9sA5sA1sA2ZW12sABsAJsA1sA1ZW11sA1sA1ZW11sA1ZW11ZW11ZW11ZW11sA1sA1ZW11sA1ZW11sA1ZW11sA1sA1sA1sA4s
  A1sA5sAZ1sA3sAIsA5327CsA1sAEsA1sACsA6sAX2sA532j14yV5bJ2bJ1bJ1bJ8yV5bJ1bJ1bJ2yV1bJ9bJ5bJ1bJ2yV2bJ
  BbJJbJ1bJ1yV1bJ1bJ1yV1bJ1yV1yV1yV1yV1bJ1bJ1yV1bJ1yV1bJ1yV1bJ1bJ1bJ1bJ4bJ1bJ5bJZ1bJ3bJIbJ531j14fW
  15hJ2hJ1hJ1hJ8fW15hJ1hJ1hJ2fW11hJ9hJ5hJ1hJ2fW12hJBhJJhJ1hJ1fW11hJ1hJ1fW11hJ1fW11fW11fW11fW11hJ1h
  J1fW11hJ1fW11hJ1fW11hJ1hJ1hJ1hJ4hJ1hJ5hJZ1hJ3hJIhJ5337CrR1rRErR1rRCrR6rRX2rR5317CsR1sREsR1sRCsR6
  sRX2sR533j14iW15kJ2kJ1kJ1kJ8iW15kJ1kJ1kJ2iW11kJ9kJ5kJ1kJ2iW12kJBkJJkJ1kJ1iW11kJ1kJ1iW11kJ1iW11iW
  11iW11iW11kJ1kJ1iW11kJ1iW11kJ1iW11kJ1kJ1kJ1kJ4kJ1kJ5kJZ1kJ3kJIkJ531j14wT5.D2.D1.D1.D8wT5.D1.D1.D
  2wT1.D9.D5.D1.D2wT2.DB.DJ.D1.D1wT1.D1.D1wT1.D1wT1wT1wT1wT1.D1.D1wT1.D1wT1.D1wT1.D1.D1.D1.D4.D1.D
  5.DZ1.D3.DI.D531j14xT5_D2_D1_D1_D8xT5_D1_D1_D2xT1_D9_D5_D1_D2xT2_DB_DJ_D1_D1xT1_D1_D1xT1_D1xT1xT
  1xT1xT1_D1_D1xT1_D1xT1_D1xT1_D1_D1_D1_D4_D1_D5_DZ1_D3_DI_D531j14yT5WE2WE1WE1WE8yT5WE1WE1WE2yT1WE
  9WE5WE1WE2yT2WEBWEJWE1WE1yT1WE1WE1yT1WE1yT1yT1yT1yT1WE1WE1yT1WE1yT1WE1yT1WE1WE1WE1WE4WE1WE5WEZ1W
  E3WEIWE531j14zT5XE2XE1XE1XE8zT5XE1XE1XE2zT1XE9XE5XE1XE2zT2XEBXEJXE1XE1zT1XE1XE1zT1XE1zT1zT1zT1zT
  1XE1XE1zT1XE1zT1XE1zT1XE1XE1XE1XE4XE1XE5XEZ1XE3XEIXE15i22Dtq1cBZz453a27Coi1J0Eoi13db1b1db12db1z1
  n8533j14cW15fJ2fJ1fJ1fJ8cW15fJ1fJ1fJ2cW11fJ9fJ5fJ1fJ2cW12fJBfJJfJ1fJ1cW11fJ1fJ1cW11fJ1cW11cW11cW
  11cW11fJ1fJ1cW11fJ1cW11fJ1cW11fJ1fJ1fJ1fJ4fJ1fJ5fJZ1fJ3fJIfJ531j14rT5vD2vD1vD1vD8rT5vD1vD1vD2rT1
  vD9vD5vD1vD2rT2vDBvDJvD1vD1rT1vD1vD1rT1vD1rT1rT1rT1rT1vD1vD1rT1vD1rT1vD1rT1vD1vD1vD1vD4vD1vD5vDZ
  1vD3vDIvD531j14sT5wD2wD1wD1wD8sT5wD1wD1wD2sT1wD9wD5wD1wD2sT2wDBwDJwD1wD1sT1wD1wD1sT1wD1sT1sT1sT1
  sT1wD1wD1sT1wD1sT1wD1sT1wD1wD1wD1wD4wD1wD5wDZ1wD3wDIwD531j14tV5dF2dF1dF1dF8tV5dF1dF1dF2tV1dF9dF5
  dF1dF2tV2dFBdFJdF1dF1tV1dF1dF1tV1dF1tV1tV1tV1tV1dF1dF1tV1dF1tV1dF1tV1dF1dF1dF1dF4dF1dF5dFZ1dF3dF
  IdF531j14uV5eF2eF1eF1eF8uV5eF1eF1eF2uV1eF9eF5eF1eF2uV2eFBeFJeF1eF1uV1eF1eF1uV1eF1uV1uV1uV1uV1eF1
  eF1uV1eF1uV1eF1uV1eF1eF1eF1eF4eF1eF5eFZ1eF3eFIeF531j14xE5Z72Z71Z71Z78xE5Z71Z71Z72xE1Z79Z75Z71Z72
  xE2Z7BZ7JZ71Z71xE1Z71Z71xE1Z71xE1xE1xE1xE1Z71Z71xE1Z71xE1Z71xE1Z71Z71Z71Z74Z71Z75Z7Z1Z73Z7IZ7531
  j14yE5a72a71a71a78yE5a71a71a72yE1a79a75a71a72yE2a7Ba7Ja71a71yE1a71a71yE1a71yE1yE1yE1yE1a71a71yE1
  a71yE1a71yE1a71a71a71a74a71a75a7Z1a73a7Ia7531j14YF5c72c71c71c78YF5c71c71c72YF1c79c75c71c72YF2c7B
  c7Jc71c71YF1c71c71YF1c71YF1YF1YF1YF1c71c71YF1c71YF1c71YF1c71c71c71c74c71c75c7Z1c73c7Ic7531j14zE5
  h62h61h61h68zE5h61h61h62zE1h69h65h61h62zE2h6Bh6Jh61h61zE1h61h61zE1h61zE1zE1zE1zE1h61h61zE1h61zE1
  h61zE1h61h61h61h64h61h65h6Z1h63h6Ih6531j14zV5cJ2cJ1cJ1cJ8zV5cJ1cJ1cJ2zV1cJ9cJ5cJ1cJ2zV2cJBcJJcJ1
  cJ1zV1cJ1cJ1zV1cJ1zV1zV1zV1zV1cJ1cJ1zV1cJ1zV1cJ1zV1cJ1cJ1cJ1cJ4cJ1cJ5cJZ1cJ3cJIcJ531j14.T5YE2YE1
  YE1YE8.T5YE1YE1YE2.T1YE9YE5YE1YE2.T2YEBYEJYE1YE1.T1YE1YE1.T1YE1.T1.T1.T1.T1YE1YE1.T1YE1.T1YE1.T1
  YE1YE1YE1YE4YE1YE5YEZ1YE3YEIYE531j14_T5ZE2ZE1ZE1ZE8_T5ZE1ZE1ZE2_T1ZE9ZE5ZE1ZE2_T2ZEBZEJZE1ZE1_T1
  ZE1ZE1_T1ZE1_T1_T1_T1_T1ZE1ZE1_T1ZE1_T1ZE1_T1ZE1ZE1ZE1ZE4ZE1ZE5ZEZ1ZE3ZEIZE53K7CuR1uREuR1uRCuR6u
  RX2uR532j14vV5fF2fF1fF1fF8vV5fF1fF1fF2vV1fF9fF5fF1fF2vV2fFBfFJfF1fF1vV1fF1fF1vV1fF1vV1vV1vV1vV1f
  F1fF1vV1fF1vV1fF1vV1fF1fF1fF1fF4fF1fF5fFZ1fF3fFIfF531j14.E5b72b71b71b78.E5b71b71b72.E1b79b75b71b
  72.E2b7Bb7Jb71b71.E1b71b71.E1b71.E1.E1.E1.E1b71b71.E1b71.E1b71.E1b71b71b71b74b71b75b7Z1b73b7Ib75
  31j14ZF5d72d71d71d78ZF5d71d71d72ZF1d79d75d71d72ZF2d7Bd7Jd71d71ZF1d71d71ZF1d71ZF1ZF1ZF1ZF1d71d71Z
  F1d71ZF1d71ZF1d71d71d71d74d71d75d7Z1d73d7Id7531j14aF5e72e71e71e78aF5e71e71e72aF1e79e75e71e72aF2e
  7Be7Je71e71aF1e71e71aF1e71aF1aF1aF1aF1e71e71aF1e71aF1e71aF1e71e71e71e74e71e75e7Z1e73e7Ie7531j14_
  E5i62i61i61i68_E5i61i61i62_E1i69i65i61i62_E2i6Bi6Ji61i61_E1i61i61_E1i61_E1_E1_E1_E1i61i61_E1i61_
  E1i61_E1i61i61i61i64i61i65i6Z1i63i6Ii6531j14WF5j62j61j61j68WF5j61j61j62WF1j69j65j61j62WF2j6Bj6Jj
  61j61WF1j61j61WF1j61WF1WF1WF1WF1j61j61WF1j61WF1j61WF1j61j61j61j64j61j65j6Z1j63j6Ij6531j14bF5f72f
  71f71f78bF5f71f71f72bF1f79f75f71f72bF2f7Bf7Jf71f71bF1f71f71bF1f71bF1bF1bF1bF1f71f71bF1f71bF1f71b
  F1f71f71f71f74f71f75f7Z1f73f7If7531j14XF5k62k61k61k68XF5k61k61k62XF1k69k65k61k62XF2k6Bk6Jk61k61X
  F1k61k61XF1k61XF1XF1XF1XF1k61k61XF1k61XF1k61XF1k61k61k61k64k61k65k6Z1k63k6Ik653t66Cn1X1n13b4b1b4
  2b4z10531j14xA4fq11f42f41f41f48xA5f41f41f42xAAf45f41f42xA2f4Bf4Jf41f41xA1f41f41xA1f41xA1xA1xA1xA
  1f41f41xA1f41xA1f41xA1f41f41f41f44f41f45f4Z1f43f4If453x66Cf1X1f13l3b1l32l3z1015Q1Duq1535j14W55W8
  2W81W81W88W55W81W81W82W51W89W85W81W82W52W8BW8JW81W81W51W81W81W51W81W51W51W51W51W81W81W51W81W51W8
  1W51W81W81W81W84W81W85W8Z1W83W8IW8531j14X55X82X81X81X88X55X81X81X82X51X89X85X81X82X52X8BX8JX81X8
  1X51X81X81X51X81X51X51X51X51X81X81X51X81X51X81X51X81X81X81X84X81X85X8Z1X83X8IX853i31b5054u6k14w4
  5d62d61d61d68w41d64d61d63w41d61d6Dd63w42d6Bd6Jd61d61w41d61d61w41d61w41w41w41w41d61d61w41d61w41d6
  1w41d61d61d61d64d61d65d6Z1d6Id61d62d6P0541j14x45e62e61e61e68x41e64e61e63x41e61e6De63x42e6Be6Je61
  e61x41e61e61x41e61x41x41x41x41e61e61x41e61x41e61x41e61e61e61e64e61e65e6Z1e6Ie61e62e6533j14f25f52
  f51f51f58f25f51f51f52f21f59f55f51f52f22f5Bf5Jf51f51f21f51f51f21f51f21f21f21f21f51f51f21f51f21f51
  f21f51f51f51f54f51f55f5Z1f53f5If55338M06d6408d66d6d3d6F0105338M06e6408e66e6d3e6F0101591Dvq11511D
  xq154y29B0BY6604Y68060d30FY61Y6152K4wx14B3hr31B108Bb1tz1w1yr11yr1Bsg21ar11ar1Y10Szn2b2ky2Hky21ky
  2Tiq2_1010151K4070l17w1l_11l_1A.X31_X317173z51z51z59rZ31_Y2l10b2jc3Hjc31jc3Sso21dr2151Bq3to21to2
  AYY31ZY3GvZ31wZ3q3rc3Hrc31rc3Swo21qr254x19B0BZ6604Z68060d30FZ61Z615s3W11424344494Qg48t11u14444s1
  nW11nW1A4141zm11zm1241414141414141414141414s3Xt3HXt31Xt3T015t34j1Ws1p2787i5053LAB01.s11.s1E01.s1
  3n19.s16.s1r2cb1I053LAB01zs11zs1E01zs13f49zs16zs1r2fq1I054H9B0Bc2604c28060d30Fc21c25411b5an353NA
  B01ys11ys1E01ys13f19ys16ys1r2vX1I053Z17Cti11ti1Eti11ti1Cti16ti1X2053p238gc130g4054J9B0Bf5604f580
  60d30Ff51f554x6BB0Fg620C0604ht2h1bt1u10Gv1b3.x1p2_x154m8BB0Fg620C0604dg4h1bt1u10GcAb3Wy1p2Xy154m
  8BB0Fg620C0604eg4h1bt1u10GbAb3Yy1p2Zy115D2Dtq1cBZz415D2Dtq1cBZz454U9B0BW8604W88060d30FW81W854U9B
  0BX8604X88060d30FX81X854k79B0Bz2604z28060d30Fz21im254h8AB0H0C0604vt2h1bt1u109ia27t2u5qx11561Duq1
  1561Duq11521Dvq11521Dvq11521Dxq11521Dxq154j4CB0H0C05.8104u8Bnq2o1o3c10Gj2l2_j4IgW254j4DQg620C05.
  8104u8h1gf3Cp31p3x1h4l2_j4MeW2p2vv153m4B8gq1301qY11qY1E01qY1309qY16qY1r2oo1I053L8CoO10E01sl2C_m1
  60j8zg5_1kn354l4G9tECjE5g620C05.8104u8h1_e3Cp31p3e1uEJb5l2_j4MeW2p2vv1541V4hD8pR1pREpR3vEIvEW1cV
  1oW11jR1lE1lE1gS1dT1lT1oD1oD1hD1fQ1mP1gR1x91jF1pF1jF1pF1x91gX11x9ApRs1pR2fX154j4BQg620C05.8104u8
  h1pf3e2x3l2_j4MeW2p2vv15425CnA1nAEnAq2nAs1nA5415ChQ1hQEhQq2hQs1hQ5415CqR1qREqRq2qRs1qR5415CzP1zP
  EzPq2zPs1zP5415CoA1oAEoAq2oAs1oA54o3M4hDMg620C05.8104u8W1jR1lE1lE4oD1oD1hD1fQ1mP1gRCp31p3x1Dl2_j
  4MeW2p2vv154c98B0H0C060r20I0F_51_554294Rk2R1D1D4R1R1R1D2p.1543CUvEIvEb1gS1dT1lT7x91jF1pF1jF1pF1x
  92x95411m2cV5454o2R1D1D9p.15433r2R1D1R5411r2gS5411s2dT5442u2R1R54839tECjEz3uE5454_2R1D1R1D5481n2
  oW154E5CpA1pAEpAq2pAs1pA5415CtR1tREtRq2tRs1tR15s1Eq3vk11vk1Amh21nh25717179ni21Y.1q3qc3Hqc31qc3S0
  1kr25425CqA1qAEqAq2qAs1qA5415CrA1rAErAq2rAs1rA5415CsA1sAEsAq2sAs1sA5415CrR1rRErRq2rRs1rR5415CsR1
  sREsRq2sRs1sR54v98B0H0C060r20I0FW61W654d97B0H03f19060d30Gf115y1340z341454d97B0H03n19060d30Gn115A
  Aq3Zp21Zp2AcY31dY3GYa31Za3q3Yd3HYd31Yd3Tbs254z98B0H0C060r20I0FX61X65475CuR1uREuRq2uRs1uR15d24C_e
  11_e1cB01053t548gc130K0s3053e168px14mL1mLFmLCmL6mL53178WV4dS1dSFdSCdS6dSr2fa254_96B0H0C060d30G_3
  54q11.4054Y98B0H0C060l1bt1u10Gd2u5wx154_99B0Fg620C0604bg4Z30Gw8b3xx1A37i14uB401uB3a81a88uB5a81a8
  1a82uBAa85a81a82uB2a8Ba8Ja81a81uB1a81a81uB1a81uB1uB1uB1uB1a81a81uB1a81uB1a81uB1a81a81a81uB4a81a8
  5a84aY2VuBLa854WA6B0H0C060d30Gt915F2Dtq1cBZz454b97B0H0C060d309ia27X35463z2xBX2hl2_501531Duq153v5
  7B01k3F01k3Ik3c3k31054i67B0H0C060d309ia27r35324Cc8Gc8Ic8c3c853m26CsY11sY1FsY1309sY16sY153m26Crb1
  1rb1Frb1309rb16rb153k26CrY11rY1FrY1309rY16rY154j2A8gq14r21r2Er210C06028q3r21r253R5Ca6F0Df16f1t30
  53Q5Cj8F0Dn16n1t3054T7Cey11ey1Ea640Hl3q3a61a654S7Cfy11fy1Ej840Hb4q3j81j853.12Scv2_8wj515D1Dvq153
  22Sql2_8cl51521Dxq15322Scu2_8jm554_1S4vK90HyM1nAHyMW1lf11bi11gY11pL1pL1Zb11dd11Xe11dL1dL1vK1hX11
  dV1aY11eE1lN1tN1lN1tN1eE1pj11eEY2zj15415ChQFhQ4hQm2hQs1hQ5415CqRFqR4qRm2qRs1qR5415CzPFzP4zPm2zPs
  1zP5415CoAFoA4oAm2oAs1oA54s1C4vK90IDp1gY11pL1pL4dL1dL1vK1hX11dV1aY154.14D0IDz1dV1t.1542CUyMIyMb1
  Zb11dd11Xe17eE1lN1tN1lN1tN1eE2eE5411m2lf15444o2R1D1D9t.15433r2R1D1R5411r2Zb15411s2dd15442u2R1R54
  839tECjEz3uE5454_2R1D1R1D5481n2bi154D5CpAFpA4pAm2pAs1pA5415CtRFtR4tRm2tRs1tR5415CqAFqA4qAm2qAs1q
  A5415CrAFrA4rAm2rAs1rA5415CsAFsA4sAm2sAs1sA5415CrRFrR4rRm2rRs1rR5415CsRFsR4sRm2sRs1sR5415CuRFuR4
  uRm2uRs1uR54.23D0Ih4.1kf354y23D0Ib5.1Zf35435CpRFpR4pRm2pRs1pR54y23D0Ix3.1tf354y16CjW210EuW2q20s1
  uW2r6Zf454a34j1j25j2Bj2t5012WCf11dY12dY1102dY14dY12Wn11i.36dY1d1dY14dY1HhLb1sw11sw1AdY11dY11dY11
  dY12dY11dY11dY11dY11dY11dY11dY11dY11dY11dY11dY11dY1l2uy4X106xg5Duy410101uy41xg51xg5S010W2xy45432
  RvW2g4vW25412RwW2g4wW254a26Cn1X1n13b4b1b42b4z1054pB8B0Fg620C060d30Gq9b3cX254r47B0H03f49060d30Gf4
  53z36Cgy11gy1E01gy1C06gy154g26Cf1X1f13l3b1l32l3z1012g2H4aT8gK1dZ1E0VgVw1c91c9BZk11gD1gD6ak1S010W
  3gq3Hgq31gq3Tfq215h47B0Y1Ws1p27878_Y2m10q30151a11X12X11s52X14X13B6X1Qs58s51s54X14X1s1s51s5AX11X1
  1X11X12X11X11X11X11X11X11X11X11X11X11X11X11X11X1JBX30H01054vB8B0Fg620C060d30GxJb3dY254vB6B0H0C06
  0d30Gs75413r2jn12zp1z1po154a4680K0359060t355416C.e1X1.e13kVb1kV2kVz1X354228aq1N054yB9B0H0C060d1j
  n12zp1z1po110GmJ54G5C.v21bu1Evw1g4vw1r605412RhQg4hQ5413Cnn4FzPg4zP5412Cmn41jd215u4D4xx170l1uz1w1
  zr11zr1Bug21cr11cr1.10b2qy2Hqy21qy2Tnq21514W47878Y.1a50152B4zx1s1xz1w1mn21mn2BrW31Zr11Zr1Z4sy2Hs
  y21sy2Tpq21519q3nn21nn2B7878uZ3r3ty2Hty21ty2T015t2E4yx1404B1Bj1vz1w1.r11.r1BiY21dr11dr1Z4vz2Hvz2
  1vz2Trq253CA8or14mp110E01go4309mp188p2or1Y1053t27D0Fr2HnP10d1lH2lHz1r254cC6B0H0C060d30G554F6CY8X
  1Y83gOb1gO2gOz1Y854c67B0H03k29060d30Gk254l26Ce1Fe110C060t3e1159B4xt1s1Zv1w1sn21sn2BxW31ym11ym1Z4
  zy2Hzy21zy2Ttq21519q3tn21tn2B7878Xa3r3.y2H.y21.y2T0159B4d_1s1jY2w1cw11cw1Bwg21cv11cv1Z4_z2H_z21_
  z2Tuq253958xv14Wf1Gjo4CWf1x2xv115i44C_e11_e1cB01015Z34j1Ws1p2787i50154B4f_1s1mY2w1dw11dw1Bxg21dv
  11dv1Z4Y.2HY.21Y.2Tvq25481q4c854L3Cbu1Fnw1g4nw154Z15D09z2901z2b4ec212Z12DcZ1cBZz454cC6B0H0C060d3
  0GeA54.21.4054XC6B0H0C060d30Gr254X31.4054cC7B0H0C0604cg4Z30Gm954cC6B0H0C060d30Gs35411j1.c2545054
  cC6B0H0C060d30Ga654f54Qv1Z2x5j50p2054cC7B0H0C0604fg4Z30GtA5421o1v153T3Cdy1Gjn4Cdy153T38gq14qY1Sq
  Y154eC6B0H0C060d30Gj854eC6B0H0C060d30GkA54eC7B0H0C060d1jn1W20Gn954eC6B0H0C060d30GY854eC6B0H0C060
  d30Gn854eC6B0H0C060d30Gy954eC9B0H0C060d1jn12zp1z1po110GbB54eC7B0H0C05.c210d30GWC54eC7B0H0C060c3Y
  i310Gw954eC7B0H0C05.c210d30GaB54cC6B0H0C060d30Gk354eC6B0H0C060d30Gz9542054eD6B0H0C060d30GY954fC6
  B0H0C060d30Ge854fC6B0H0C060d30Gc854fC6B0H0C060d30Gt754fC6B0H0C060d30Gr954fC6B0H0C060d30GZA54fC6B
  0H0C060d30Gs954fC6B0H0C060d30GaA54fC6B0H0C060d30GfA54fC6B0H0C060d30GhA54fC6B0H0C060d30GYA54fC6B0
  H0C060d30Gv354YC6B0H0C060d30GZ354aC6B0H0C060d30Ga35431o1Ww254fC6B0H0C060d30GY45413r2jn12zp1z1po1
  54fC6B0H0C060d30Gk95450547054fC6B0H0C060d30Gl954fC6B0H0C060d30GlA54fC7B0H0C060d1jn1W20Go954fC6B0
  H0C060d30GgA54_D6B0H0C060d30GZ954gC6B0H0C060d30Gf854.B6B0H0C060d30Gz154YC6B0H0C060d30G.154eC6B0H
  0C060d30Gg354eC6B0H0C060d30Gf35420542054eC6B0H0C060d30Gi354605420542054A054eC6B0H0C060d30Gh35420
  542054gC6B0H0C060d30GiA54gC6B0H0C060d30G.954gC9B0H0C060d1jn12zp1z1po110GWB54gC6B0H0C060d30GdA54g
  C6B0H0C060d30GZ45413r2jn12zp1z1po154qE6B0H0C060d30Ga954hC6B0H0C060d30Gg854bC6B0H0C060d30Gg154fC6
  B0H0C060d30G_15410541054405410541054fC6B0H0C060d30GW25410541054hC6B0H0C060d30GjA54hC6B0H0C060d30
  G_954hC6B0H0C060d30GWA54hC6B0H0C060d30Gh854eC6B0H0C060d30Gh154105410541054fC6B0H0C060d30GX254105
  41054fC6B0H0C060d30GY25410541054hC6B0H0C060d30GXA54hC9B0H0C060d1jn12zp1z1po110GXB54.748vX1E0A0a4
  012d31DbZ153a45CX3F0D565t3054u46C_n1F_n13ef31_n1m20s1_n153_57D0Fln4Hlm110d1uX12uX1z1a653Y67D0Fpn
  4Hmm110d1wX12wX1z1j854b61.4054nC9B0H0C060d1jn12zp1z1po110GZB54nC9B0H0C060d1jn12zp1z1po110GYB1281
  Drt153j45Cr2F0D565t3054_38Dv1Ev140H82pW2BnW2d3v11v154_36DY8EY840H8q3Y81Y853_35Cn8F0Dk26k2t301251
  Dut153B3Cys1Gey1Cys153B3C.s1Gfy1C.s154Y44Rk340b4k31k35414Rc8v3c8Gc81c81251Dvt153G4Cey1G0Iey1r2uA
  53G4Cfy1G0Ify1r2_S54m63804nP1nP54f46Doi1En840Hr8q3n81n854w46D.e1EX340H8q3X31X354c768WVK0359060t3
  512h5S1eY12eY13eY14eY13db46eY1d1eY14eY1X2eY11eY11eY11eY12eY11eY11eY11eY11eY11eY11eY11eY11eY11eY1
  1eY11eY1l2mj4q1mj43mj4_2pj454.428nv15053d5X14yK7nA1nA10F02fMG02fMW1of11fi11iY11rL1rL1bb11kd11ae1
  1fL1fL1yK1kX11fV1bY11hE1pN1wN1pN1wN1hE1wj11hEAnAc1nAIyj15314BhQ1hQZ3hQc1hQ5314BqR1qRZ3qRc1qR5314
  BzP1zPZ3zPc1zP5314BoA1oAZ3oAc1oA53zBH4yK7D20E010C060a1iY11rL1rL4fL1fL1yK1kX11fV1bY1u1D53194Rk2R1
  D1D4R1R1R1D2w.1533B9D2D1D9Rx1D1DJDBDZ1D3DID5311m2of15344o2R1D1D9w.15333r2R1D1R5311r2bb15311s2kd1
  5342u2R1R53839n4Cp4z3o45354_2R1D1R1D5381n2fi153D4BpA1pAZ3pAc1pA5314BtR1tRZ3tRc1tR5314BqA1qAZ3qAc
  1qA5314BrA1rAZ3rAc1rA5314BsA1sAZ3sAc1sA5314BrR1rRZ3rRc1rR5314BsR1sRZ3sRc1sR5314BuR1uRZ3uRc1uR53t
  D8Bh420E010C060l1nf3u1h453tD8Bb520E010C060l1cf3u1b55334BpR1pRZ3pRc1pR53rD8Bx320E010C060l1wf3u1x3
  54W118054128aq1N054j62l3j2t4054268050Din4Ehy1r1he3c1yf353s45Sdy1H5e1828z1053f65CgM10F0Iab2dAsk45
  4.D6B0H0C060d30GWJ54.D6B0H0C060d30GxD54p56Ck2X1k23r8b1r82r8z1054h51q4054zD6B0H0C060d30GiJ542054z
  D6B0H0C060d30GsD54b62ChQ1054.D6B0H0C060d30GnA54yD6B0H0C060d30GlJ53B1k1zp312m1T1fY12fY13fY14fY12Y
  x21Yx26fY1d1fY14fY1X2fY11fY11fY11fY12fY11fY11fY11fY11fY11fY11fY11fY11fY11fY11fY11fY1l2xW5q1xW53x
  W5_2054.D6B0H0C060d30GqF12r64w14c2484i501211w1gV53_74Rao210C0p8053I58xv14Wf1GWf1CWf1x2xv15310538
  4Cat1Gat1Iat1dA054ZE6B0H0C060d30GrB15_5D4wx14B4B108B_2hw11hw1Cxh21xh2Y10X3yq3Hyq31yq353T5Ble21le
  2Z30c1le2e6cj254bD6B0H0C060d30GY754aE6B0H0C060d30GXJ54aE6B0H0C060d30GZJ54aE6B0H0C060d30GgJA4_85S
  0C060b2tg2o1a854bE6B0H0C060d30GyD54bE6B0H0C060d30GzD53E2Dcs2E054cE6B0H0C060d30GjJ54bE6B0H0C060d3
  0GoA53M3SYb2I0dAtl454aE6B0H0C060d30GdJ54R3Cti1Fti1g4ti15362D0X1wl254vD6B0H0C060d30GeJ5381Der254w
  D6B0H0C060d30GuD54wD6B0H0C060d30GtD54wD6B0H0C060d30GpA54J0120h11ik12ik11tk12ik14ik12hb11sf46ik1Q
  g48t11u14WY34ik1Hap1V16q_11q_1AsX31XY31sh21sh22ik11yY21yY21yY21lZ31ik11ik11ik11ik11ik11ik11ik1P1
  t2xz46kj3Exz41xz42kj31kj3Sop21dq2_1yz454vD6B0H0C060d30GsF54P6D0Don4509pd1r1le3c1zf354wD6B0H0C060
  d30GrF54wD6B0H0C060d30GX754D3C_n1F_n1g4_n153X11Rjo253W158pr14wRGwRCwRx2pr153105310531054WE6B0H0C
  060d30G_I53H4Cid21id2X1id2iA015Z184xx1m3Ys11Ys1Cyh21yh2Z4er3Her31er315n71m4015284zx1m3mw11mw1Cii
  21ii2Z4eu3Heu31eu315b7B4yx1404B1Bd3jw11jw1C.h21.h2Z4hr3Hhr31hr315n74j1Ws1p2787i5054bE6B0H0C060d3
  0GYJ54bE6B0H0C060d30GqA54aE6B0H0C060d30GaJ54aE6B0H0C060d30GrA54ZE6B0H0C060d30GsA54YE6B0H0C060d30
  GbJ54YE6B0H0C060d30GhJ54WE6B0H0C060d30GkJ54WE6B0H0C060d30G.D54WE6B0H0C060d30G_D54WE6B0H0C060d30G
  WE54WE6B0H0C060d30GXE53b11k1xl254_D6B0H0C060d30GfJ54_D6B0H0C060d30GvD54_D6B0H0C060d30GwD54_D6B0H
  0C060d30GdF54_D6B0H0C060d30GeF54_D6B0H0C060d30GZ754_D6B0H0C060d30Ga754_D6B0H0C060d30Gc754_D6B0H0
  C060d30Gh653A2e1rl2605312SYv2C05311SZv25311Sfr253c11Rko253Z158qr14xRGxRCxRx2qr153105310531015Y18
  4fb2m3as11as1C_h21_h2Z4pr3Hpr31pr315a194fb2s1vg2w1g_11g_1C.z11.z1Z4wy2Hwy21wy215h86q3qn21qn2R0r3
  xy2Hxy21xy21515q3vn21vn2m4Wz2HWz21Wz215b184d_1m3cs11cs1CXi21Xi2Z4sr3Hsr31sr315j83W4787i5053s468W
  V50I09dS6r22854lE6B0H0C060d30GcJ54lE6B0H0C060d30GYE54lE6B0H0C060d30GZE15m8340z341415l83W4787i505
  4mE6B0H0C060d30GfF54mE6B0H0C060d30Gb754mE6B0H0C060d30Gd754mE6B0H0C060d30Ge754mE6B0H0C060d30Gi654
  mE6B0H0C060d30Gj653O1Sav25311Sbs25311Srs253M58bl24Zt1GZt1CZt1x2bl215M84Yn2m3ds11ds1CZi21Zi2Z4zr3
  Hzr31zr315K94Yn2s1zW3w1wn21wn2Cdh21dh2Z4Xz2HXz21Xz215194.x1s1yz1w1xn21xn2Cbr11br1Z4Yz2HYz21Yz215
  15q3yn21yn2m4Zz2HZz21Zz21515q3.n21.n2m4bz2Hbz21bz215N84gb2m3es11es1Cai21ai2Z4_r3H_r31_r315H94gb2
  s1yg2w1h_11h_1C_z11_z1Z4Z.2HZ.21Z.215194hb2s1Wh2w1i_11i_1CW.11W.1Z4a.2Ha.21a.254yE6B0H0C060d30Gf
  754yE6B0H0C060d30Gk653C1Skl45311Sml45311Sbv25311Szs215E84es3m3fs11fs1Cbi21bi2Z4Zs3HZs31Zs315B94b
  n2s1bX3w1_n21_n2Cch21ch2Z4cz2Hcz21cz215B84Zn2m3gs11gs1Cci21ci2Z4as3Has31as315A94Zn2s1XX3w1Wo21Wo
  2Ceh21eh2Z4b.2Hb.21b.215194an2s1mX3w1Xo21Xo2Ckh21kh2Z4c.2Hc.21c.215384fs3m3hs11hs1Cdi21di2Z4es3H
  es31es353d43Cmp1Gmp1Cmp115784xt1m3os11os1Cji21ji2Z4gu3Hgu31gu312w32DcZ1cBZz41211w1gV54x25D09mM90
  1mMb4gc215484.x1m3ps11ps1Cki21ki2Z4lu3Hlu31lu353D4C_n11_n1F_n1.A054.15D09nM901nMb4kc254.15D09oM9
  01oMb4lc254.15D09xN901xNb4pc254.15D09pM901pMb4qc215684bn2m3qs11qs1Cli21li2Z4mu3Hmu31mu354f15D09q
  M901qMb4rc253n138gc14yv2Y1yv254g15D09yN901yNb4sc254g15D09zN901zNb4tc254g15D09rM901rMb4uc254g15D0
  9sM901sMb4vc215784is3m3rs11rs1Cmi21mi2Z4nu3Hnu31nu354V5D09.N901.Nb4wc254V5D09tM901tMb4xc212J1DbZ
  11211w1gV54k36CmM1mMEmM40b4mM1mM53q95804nPS06nPr2wJ54m26CnM1nMEnM40b4nM1nM54m26CoM1oMEoM40b4oM1o
  M53_138gq1W10x2wJ54n26CxN1xNExN40b4xN1vr253s68C5F01v1C5Anb1Bkb1d301053s66C5F01Y8C5y301053i67D0E0
  1n8Ioi1r2uSX101054q26CpM1pMEpM40b4pM1pM54.16CqM1qMEqM40b4qM1qM54.16CyN1yNEyN40b4yN1xr254.16CzN1z
  NEzN40b4zN1yr254.16CrM1rMErM40b4rM1rM54.16CsM1sMEsM40b4sM1sM54o16C.N1.NE.N40b4.N1zr254o16CtM1tME
  tM40b4tM1tM12J1Drt11211w1gVA4r42D0IuB54q638mv14r2J01241Dut11211w1gV53G6DnPFnPHnPe1lH2lHz1r253G6C
  k21oi1Foi1Ck260r201241Dvt11211w1gV15zB88p94_L1wq180x3010Y7fk41gk4151T1U2U1m52U4U9UQm58m51m54U4Us
  1m51m5AU1U1U1U2U1U1U1U1U1U1U1U1U1U1U1U54iE3Ca610I054hE3Cj810I01542Dtq1cBZz41542Dtq1cBZz453e73Ca6
  Y1a6r2053e73Cj8Y1j8r201541Dvq11541Dvq11521Duq11521Duq11521Dxq11521Dxq153x52k1_a2dAez454rDS4nJ80I
  iK10HiKW1wa11lb11_U1eK1eK1rX11pY11YZ11YK1YK1nJ1hT1bS1zU1eC1tK1XL1tK1XL1eC1bd11eCY2ld15413RhQq2hQ
  s1hQ5413RqRq2qRs1qR5413RzPq2zPs1zP5413RoAq2oAs1oA54jDC4nJ80J0p1_U1eK1eK4YK1YK1nJ1hT1bS1zU53i52S.
  a2vAsz454sD4C0J0z1bS1r.153c41k1ol2545A9DCR6Dr1D1DJDBDZ1DJD2D5411m2wa15464o2R1D1D9r.15433r2R1D1R5
  411r2rX15411s2pY15442u2R1R54939tECjEz3uE5454_2R1D1R1D5481n2lb153q51Dpr254G3RpAq2pAs1pA5413RtRq2t
  Rs1tR5413RqAq2qAs1qA5413RrAq2rAs1rA5413RsAq2sAs1sA5413RrRq2rRs1rR5413RsRq2sRs1sR53J1k1pl25423RuR
  q2uRs1uR53N2Szc2vAd.45312Sib2vAq.45312Sdb2vAy.45312Slb2vAb_45312Sqb2vAf_454.D3C0J0.1if354.D3C0J0
  .1Xf35483RpRq2pRs1pR54.D3C0J0.1rf315e384f_1m3ks11ks1Cei21ei2Z4Zt3HZt31Zt353l31Szt215284hb2m3ls11
  ls1Cfi21fi2Z4gt3Hgt31gt35321SXu25311SYu215384an2m3ms11ms1Cgi21gi2Z4kt3Hkt31kt35321SZu215284gs3m3
  ns11ns1Chi21hi2Z4lt3Hlt31lt353fLU4pD80F0102kFG02kFW1qW11iX11oR1cF1cF1rS1vU1XV1kE1kE1pD1yQ1wP1nR1
  mA1yI1.I1yI1.I1mA1WY11mAY2XY15313DhQRhQd2hQ5313DqRRqRd2qR5313DzPRzPd2zP5313DoARoAd2oA53qKE4pD80F
  010I0a1oR1cF1cF4kE1kE1pD1yQ1wP1nR53yK6C0F010I0k1wP1u.1533A9D4D8RJDe1D1DJDBDZ1DLD5311m2qW15344o2R
  1D1D9u.15333r2R1D1R5311r2rS5311s2vU5342u2R1R53839n4Cp4z3o45354_2R1D1R1D5381n2iX153D3DpARpAd2pA53
  13DtRRtRd2tR5313DqARqAd2qA5313DrARrAd2rA5313DsARsAd2sA5313DrRRrRd2rR5313DsRRsRd2sR5313DuRRuRd2uR
  53kM5C0F010I0l1lf353kM5C0F010I0l1af35333DpRRpRd2pR53iM5C0F010I0l1uf353x51Rpo25311Rqo253Z368sv135
  1nPF0w35G053fA38pv1N0F053Z11Shu25311Sru25311Svu25311S.u254_828nv1505381Rso25311Rwo25311Rdo25311R
  eo254q13Rpu2q20s1pu212hA4Czl11zl1cB01053b968gc14rq11rq1E0Jrq1t3012t7T1jk12jk13jk14jk12Xx21Xx26jk
  1d1jY34jk1X2zX31kY31uh21uh22jk11.Y21.Y21.Y21mZ31jk11jk11jk11jk11jk11jk11jk1m3yW5KyW51yW5_2012r83
  40z341453A48gc1Mwv11zo1c4015m8340z341412rJT4hs34040905010D0ImW3Z10Nkn21kn29yn11o_21p_21Zh21Zh210
  1Y_2CsZ31tZ3K0W3my26xq28xm23my21my2Sko21kq2w1cp253j23CYw21Yw2jB015XI6_3717878010Z501545q3iw11iw1
  m4fr3Hfr31fr315m7340z341415m7340z341454D2Ruk4g4tk412D4804hb11Zu1cB.z45372Cbu11bu15312Cjd21jd2158
  5q3wo11wo1m4vc3Hvc31vc35452Rnw1g4nw154r95D09nE901nEl2015i5340z341415l368B4B1B8B.A01012I2DcZ1cBZz
  415h5340z341415_7340z341415d5340z341415z6340z34141515q3bs11bs1m4qr3Hqr31qr315x6340z341415a5340z3
  41415h6340z341415d6340z341415_5340z341415.5340z341415y5340z341454G7CnE1nE905nE50a4nE1nE12E1DbZ1A
  3q46Ba8G040q2aY2Y1uBG01221Drt153iB6D0E0J.e1r2WKX101054sF3Ck310I05412Cc8e4c853rG4D0Hke31sY1c4053q
  G4D0Hje31rb1c4053pG4D0Hie31rY1c401271Dut154jG3CX310I053w438gc1K0C053i56Cv110F0C06v1r2x553i56CY81
  0F0C06Y8r2gO1251Dvt154X518054ZG3Cn810I053kI5Czs110F0Izs1r2053t44Cf11lm1R06053t44Cn11mm1R06054c12
  Rjr2g4jr25412Rob4g4nb415i3340z341415h3340z341415f3340z341415e3340z341453e3T4kK90HoLA06nA2oLW1ve1
  1mf11tX11jL1jL1va11pb11kc11wK1wK1kK1rW11wU1nX11jD1eM1iM1eM1iM1jD1ci11jDY2di15312k1hQX2hQ5312k1qR
  X2qR5312k1zPX2zP5312k1oAX2oA53W3D4kK90R06Da1tX11jL1jL4wK1wK1kK1rW11wU1nX153e35D0R06Dk1wU1v.15339
  9DCRPDY1D1DJDBDZ1DLD5311m2ve15344o2R1D1D9v.15333r2R1D1R5311r2va15311s2pb15342u2R1R53839n4Cp4z3o4
  5354_2R1D1R1D5381n2mf153D2k1pAX2pA5312k1tRX2tR5312k1qAX2qA5312k1rAX2rA5312k1sAX2sA5312k1rRX2rR53
  12k1sRX2sR5312k1uRX2uR53e34D0R06h4l1mf353e34D0R06b5l1bf35332k1pRX2pR53e34D0R06x3l1vf353TS4xKQ_M1
  nAF02_MW1nf11ei11hY11qL1qL1ab11jd11Ze11eL1eL1xK1jX11eV1cY11fE1nN1vN1nN1vN1fE1tj11fEY2vj15312VhQm
  2hQ5312VqRm2qR5312VzPm2zP5312VoAm2oA53LC4xKRDF0a1hY11qL1qL4eL1eL1xK1jX11eV1cY153T4VDF0k1eV1x.153
  399DCRADn1D1DJDBDZ1DLD5311m2nf15344o2R1D1D9x.15333r2R1D1R5311r2ab15311s2jd15342u2R1R53839n4Cp4z3
  o45354_2R1D1R1D5381n2ei153D2VpAm2pA5312VtRm2tR5312VqAm2qA5312VrAm2rA5312VsAm2sA5312VrRm2rR5312Vs
  Rm2sR5312VuRm2uR53T3Vh4F0l1of353T3Vb5F0l1df35332VpRm2pR53T3Vx3F0l1xf353b248kr1J0J5t3053138rv1N5F
  053r368sv135G03810s3512w34w14c2484i501211w1gV53i43D0Rrd4d2053b12k1o.3X2012n33Cyl11yl1cB0530f14Ym
  15tY13Y79Ym15tY12Y72Ym1AY75tY13Ym12tY1BtY1JtY11tY11Ym11tY11tY11Ym11tY11Ym11Ym11Ym11Ym11tY11tY11Y
  m11tY11Ym11tY11Ym11tY11tY11tY11tY14tY11tY1411tY1Z1tY1LtY11115u35Q0Z20Z1oY28ZDi5kr215v33Q0Z20p1Y.
  153jJABme21me210Dg21040m20c1me2G0b3Yp11294804hb11Zu1cB.z41211w1gV536d14Zm15uY13h69Zm15uY12h62Zm1
  Ah65uY13Zm12uY1BuY1JuY11uY11Zm11uY11uY11Zm11uY11Zm11Zm11Zm11Zm11uY11uY11Zm11uY11Zm11uY11Zm11uY11
  uY11uY11uY14uY11uY15uY1Z1uY1LuY1531d14am15vY13dF9am15vY12dF2am1AdF5vY13am12vY1BvY1JvY11vY11am11v
  Y11vY11am11vY11am11am11am11am11vY11vY11am11vY11am11vY11am11vY11vY11vY11vY14vY11vY15vY1Z1vY1LvY15
  31d14bm15wY13eF9bm15wY12eF2bm1AeF5wY13bm12wY1BwY1JwY11wY11bm11wY11wY11bm11wY11bm11bm11bm11bm11wY
  11wY11bm11wY11bm11wY11bm11wY11wY11wY11wY14wY11wY15wY1Z1wY1LwY115u35Q0Z20Z1th28ZDi5wr215v33Q0Z20p
  1zZ31527q3yo21yo2BmY3b4xc3Hxc31xc3Tzr21526q3zo21zo2R.Z3r3yc3Hyc31yc3535d14cm15xY13i69cm15xY12i62
  cm1Ai65xY13cm12xY1BxY1JxY11xY11cm11xY11xY11cm11xY11cm11cm11cm11cm11xY11xY11cm11xY11cm11xY11cm11x
  Y11xY11xY11xY14xY11xY15xY1Z1xY1LxY1531d14dm15yY13j69dm15yY12j62dm1Aj65yY13dm12yY1ByY1JyY11yY11dm
  11yY11yY11dm11yY11dm11dm11dm11dm11yY11yY11dm11yY11dm11yY11dm11yY11yY11yY11yY14yY11yY15yY1Z1yY1Ly
  Y1531d14em15zY13fF9em15zY12fF2em1AfF5zY13em12zY1BzY1JzY11zY11em11zY11zY11em11zY11em11em11em11em1
  1zY11zY11em11zY11em11zY11em11zY11zY11zY11zY14zY11zY15zY1Z1zY1LzY11557q3gp21gp2BsY3b4gd3Hgd31gd3T
  fs21556q3hp21hp2Raa3r3hd3Hhd31hd31527q3np21np2BvY3b4nd3Hnd31nd3Ths21526q3op21op2Rba3r3od3Hod31od
  3535d14fm15.Y13k69fm15.Y12k62fm1Ak65.Y13fm12.Y1B.Y1J.Y11.Y11fm11.Y11.Y11fm11.Y11fm11fm11fm11fm11
  .Y11.Y11fm11.Y11fm11.Y11fm11.Y11.Y11.Y11.Y14.Y11.Y15.Y1Z1.Y1L.Y115m74C_e11_e1cB01015X448p94_e11_
  e18053r448y.14mL10X1qY153V28WVN053Z13Uff31_n1m2053m35CsY1F03b410F.s153c32Crb1S053m35CrY1F03l310F
  ys112om1b14_5301030201070502010B040409020101020G0901010309010101010509010101010106_5Eh953t33CX3Y
  1X3r2012pm1b14W6301030201070502010B040409020101020G0901010309010101010509010101010106W6Ei953u33R
  0Je1t3012qm1b14X6301030201070502010B040409020101020G0901010309010101010509010101010106X6Ej95322C
  c8e4c85353C51.e1X1053Y9280x3053n34R0Jn82r8r3053f11e1ve453f11k1Wy353j2R4jKQnL10HnLW1ue11kf11sX11i
  L1iL1ua11mb11hc11uK1uK1jK1pW11uU1mX11iD1ZM1hM1ZM1hM1iD1Zi11iDY2ai15311l3hQ5311l3qR5311l3zP5311l3
  oA53b2B4jKR0p1sX11iL1iL4uK1uK1jK1pW11uU1mX153j23V0z1uU1s.153389DCRx1D1DJDBDZ1DLD5311m2ue15344o2R
  1D1D9s.15333r2R1D1R5311r2ua15311s2mb15342u2R1R53839n4Cp4z3o45354_2R1D1R1D5381n2kf153D1l3pA5311l3
  tR5311l3qA5311l3rA5311l3sA5311l3rR5311l3sR5311l3uR53R2Dgy1R053k22V0.1jf353k22V0.1Yf35341l3pR53k2
  2V0.1sf353W11e1tf45311e1mi45311e1gj45311e1jj454l638mv140J05321e1_e45311e1nj45311e1fh453458pv155E
  0D5z3053B8LjE5g6J.85u8z10b4_j4MeW2p2bo212r2340z341412u95CgK1dZ1E0f401012u95CgK1dZ1E0f401012l23Cy
  l11yl1cB01211w1gV12n2340z341415Z26q3Yp21Yp2R0r3Xd3HXd31Xd31515q3fw11fw1m4bd3Hbd31bd31515q3cp21cp
  2m4cd3Hcd31cd31515q3fp21fp2m4fd3Hfd31fd31515q3lp21lp2m4ld3Hld31ld31515q3sp21sp2m4sd3Hsd31sd31515
  q3tp21tp2m4td3Htd31td31515q3up21up2m4ud3Hud31ud31515q3vp21vp2m4vd3Hvd31vd31515q3yp21yp2m4yd3Hyd3
  1yd31515q3zp21zp2m4zd3Hzd31zd31515q3.p21.p2m4.d3H.d31.d31515q3Xq21Xq2m4Xe3HXe31Xe31515q3Yq21Yq2m
  4Ye3HYe31Ye31515q3Zq21Zq2m4Ze3HZe31Ze31515q3aq21aq2m4ae3Hae31ae312L2DcZ1cBZz412L2DcZ1cBZz41221Db
  Z11221DbZ11221Drt11221Drt11221Dut11221Dut1A3f64B010JuBs301231Dvt11231Dvt153j11l3053j738WV40F053y
  238kr140Y1553138rv1N5F053128oZ2N0650d11bX12bX11xp12bX14bX13xp16bX18np4Ixp18xp11xp14bX14bX1Qxp11x
  p1L16xp11xp19xp11bX11bX11bX11bX12bX11bX11bX11bX11bX11bX11bX11bX11bX11bX11bX11bX11bX11bX1Kvr13112
  Y13Cyl11yl1cB0652b11dX12dX11yp12dX14dX13yp16dX18op4Iyp18yp11yp14dX14dX1Qyp11yp1Ryp11yp19yp11dX11
  dX11dX11dX12dX11dX11dX11dX11dX11dX11dX11dX11dX11dX11dX11dX11dX11dX1Kpr312jh1V4_N304030705e_130F0
  6xc3702040G0901010C01010101050901010101010Ky5v3zq2p2qb5652b11uW12uW11Xl12uW14uW13Xl16uW18Xl1IXl1
  8Xl11Xl14uW14uW1QXl11Xl1RXl11Xl19Xl11uW11uW11uW11uW12uW11uW11uW11uW11uW11uW11uW11uW11uW11uW11uW1
  1uW11uW11uW1KXl1651b11vW12vW11Yl12vW14vW13Yl16vW18Yl1IYl18Yl11Yl14vW14vW1QYl11Yl1RYl11Yl19Yl11vW
  11vW11vW11vW12vW11vW11vW11vW11vW11vW11vW11vW11vW11vW11vW11vW11vW11vW1KYl1651b11wW12wW11Zl12wW14w
  W13Zl16wW18Zl1IZl18Zl11Zl14wW14wW1QZl11Zl1RZl11Zl19Zl11wW11wW11wW11wW12wW11wW11wW11wW11wW11wW11w
  W11wW11wW11wW11wW11wW11wW11wW1KZl1651b11yW12yW11bl12yW14yW13bl16yW18bl1Ibl18bl11bl14yW14yW1Qbl11
  bl1Rbl11bl19bl11yW11yW11yW11yW12yW11yW11yW11yW11yW11yW11yW11yW11yW11yW11yW11yW11yW11yW1Kbl1651b1
  1xW12xW11al12xW14xW13al16xW18al1Ial18al11al14xW14xW1Qal11al1Ral11al19al11xW11xW11xW11xW12xW11xW1
  1xW11xW11xW11xW11xW11xW11xW11xW11xW11xW11xW11xW1Kal1651b11.W12.W11dl12.W14.W13dl16.W18dl1Idl18dl
  11dl14.W14.W1Qdl11dl1Rdl11dl19dl11.W11.W11.W11.W12.W11.W11.W11.W11.W11.W11.W11.W11.W11.W11.W11.W
  11.W11.W1Kdl1651b11zW12zW11cl12zW14zW13cl16zW18cl1Icl18cl11cl14zW14zW1Qcl11cl1Rcl11cl19cl11zW11z
  W11zW11zW12zW11zW11zW11zW11zW11zW11zW11zW11zW11zW11zW11zW11zW11zW1Kcl1651b11_W12_W11el12_W14_W13
  el16_W18el1Iel18el11el14_W14_W1Qel11el1Rel11el19el11_W11_W11_W11_W12_W11_W11_W11_W11_W11_W11_W11
  _W11_W11_W11_W11_W11_W11_W1Kel1651b11WX12WX11fl12WX14WX13fl16WX18fl1Ifl18fl11fl14WX14WX1Qfl11fl1
  Rfl11fl19fl11WX11WX11WX11WX12WX11WX11WX11WX11WX11WX11WX11WX11WX11WX11WX11WX11WX11WX1Kfl1651b11XX
  12XX11gl12XX14XX13gl16XX18gl1Igl18gl11gl14XX14XX1Qgl11gl1Rgl11gl19gl11XX11XX11XX11XX12XX11XX11XX
  11XX11XX11XX11XX11XX11XX11XX11XX11XX11XX11XX1Kgl1651b11YX12YX11hl12YX14YX13hl16YX18hl1Ihl18hl11h
  l14YX14YX1Qhl11hl1Rhl11hl19hl11YX11YX11YX11YX12YX11YX11YX11YX11YX11YX11YX11YX11YX11YX11YX11YX11Y
  X11YX1Khl1651b11ZX12ZX11il12ZX14ZX13il16ZX18il1Iil18il11il14ZX14ZX1Qil11il1Ril11il19il11ZX11ZX11
  ZX11ZX12ZX11ZX11ZX11ZX11ZX11ZX11ZX11ZX11ZX11ZX11ZX11ZX11ZX11ZX1Kil1651b11aX12aX11jl12aX14aX13jl1
  6aX18jl1Ijl18jl11jl14aX14aX1Qjl11jl1Rjl11jl19jl11aX11aX11aX11aX12aX11aX11aX11aX11aX11aX11aX11aX1
  1aX11aX11aX11aX11aX11aX1Kjl1651b11tW12tW11Wl12tW14tW13Wl16tW18Wl1IWl18Wl11Wl14tW14tW1QWl11Wl1RWl
  11Wl19Wl11tW11tW11tW11tW12tW11tW11tW11tW11tW11tW11tW11tW11tW11tW11tW11tW11tW11tW1KWl1651b11T2T1c
  22T4T3c26T8c2Ic28c21c24T4TQc21c2Rc21c29c21T1T1T1T2T1T1T1T1T1T1T1T1T1T1T1T1T1TKrr3651b11r12r11z22
  r14r13z26r18z2Iz28z21z24r14r1Qz21z2Rz21z29z21r11r11r11r12r11r11r11r11r11r11r11r11r11r11r11r11r11
  r1Kqr36521b5c26521b5kr3651b11f22f21f52f24f23f56f28f5If58f51f54f24f2Qf51f5Rf51f59f51f21f21f21f22f
  21f21f21f21f21f21f21f21f21f21f21f21f21f2Kf553O18qZ253zN5C010E040c406551b5mr353318sZ253118uZ25311
  8vZ253118wZ253118rZ253118xZ253118tZ212e14Czl11zl1cB01012e14Czl11zl1cB01012w4E4c_18010R0IzY2w1yk1
  1yk1Bvh21er11er1Z4rq3Hrq31rq3Thq262Bb11sW12sW11Wo12sW14sW13Wo16sW18Wo1IWo18Wo11Wo14sW14sW1QWo11W
  o1RWo11Wo19Wo11sW11sW11sW11sW12sW11sW11sW11sW11sW11sW11sW11sW11sW11sW11sW11sW11sW11sW1K0621a11cX
  12cX11Xo12cX14cX13Xo16cX18Xo1IXo18Xo11Xo14cX14cX1QXo11Xo1RXo11Xo19Xo11cX11cX11cX11cX12cX11cX11cX
  11cX11cX11cX11cX11cX11cX11cX11cX11cX11cX11cX11254804hb11Zu1cB.z41254804hb11Zu1cB.z4623a11zK2zK1s
  a12zK4zK3sa16zK8sa1Isa18sa11sa14zK4zKQsa11sa1Rsa11sa19sa11zK1zK1zK1zK2zK1zK1zK1zK1zK1zK1zK1zK1zK
  1zK1zK1zK1zK1zK621062H1b5062L1b5053_45B010Eg6x30r3cX212A840s142ob2a24141464i5012144c_1u10b2er11e
  r11211w1zY212sSG803010905010D0r10Y1m_21n_2301d_2CpZ31_Y2K0R012384eb2m3Xp11Xp1Cgv11gv1Z4br3Hbr31b
  r31211w1wh212D3Cyl11yl1cB012D3Cyl11yl1cB0125F4zx1s1xz1w1on21on2Aq_21r_21Zr11Zr12e_2CxZ31yZ3q3uy2
  Huy21uy2Tqq212584Xn2m3Zs11Zs1CX.11X.1Z4mr3Hmr31mr31211w1oZ312284ds3m3kw11kw1CYi21Yi2Z4wr3Hwr31wr
  312li1S4lX1304030707010F0D02040G0901010C01010101050901010101010KlD12D1y1012A340z34141215q3Ys11Ys
  1m4er3Her31er312hR98040905010D0r10c10Y10128340z34141215q3as11as1m4pr3Hpr31pr31215q3bs11bs1m4qr3H
  qr31qr3124Aq3Wp21Wp2AaY31bY3G_Z31Wa3q3_c3H_c31_c3TXs21225q3cs11cs1m4sr3Hsr31sr312B340z34141215q3
  ds11ds1m4zr3Hzr31zr31215q3x_11x_1m4.r3H.r31.r31215q3es11es1m4_r3H_r31_r31215q3y_11y_1m4Ws3HWs31W
  s31215q3fs11fs1m4Zs3HZs31Zs31215q3gs11gs1m4as3Has31as31215q3z_11z_1m4ds3Hds31ds31215q3hs11hs1m4e
  s3Hes31es31215q3._11._1m4hs3Hhs31hs312dj1W14aR304030705030F0D02040G09010103090101010105090101010
  10101xo4Jz8w3xq2Z3cp21225q3ks11ks1m4Zt3HZt31Zt31215q3ls11ls1m4gt3Hgt31gt31215q3ms11ms1m4kt3Hkt31
  kt31215q3ns11ns1m4lt3Hlt31lt31215q3XW21XW2m4mt3Hmt31mt31215q3os11os1m4gu3Hgu31gu31215q3ps11ps1m4
  lu3Hlu31lu31215q3qs11qs1m4mu3Hmu31mu31215q3rs11rs1m4nu3Hnu31nu31215q3YW21YW2m4ou3Hou31ou3120Z16i
  m11jm13xk18Wd11Xd11_c1b1hd11id11cd1p11GL6sk15zt17ed16dp11fd11gd1G1ArOBkO1kOj1kO3kO2kORwd1IkO9kO1
  kO1kO1mO2kO2kO2kO3kOy1xu312m67C010D0E0r10Y1kZ34012245on3a4.t1D0ShP12QD4bs3m3jn21jn2A71rX31Yh21Yh
  2E010q3ly2Hly21ly2Tjq2125ADhk4D0Z20Ndr21dr2E0Y4ow3How31ow3Qsl4122A4Wn2m3ln21ln2BoY21bh21bh2Z4ry2
  Hry21ry2Toq212ePAC010D010D0r10Y1s_240X101012WSB804010D010D0r10Y1t_240X10101247Dyk4d3re11re1m4qg4
  Hqg41qg4Qla51211D.k41211DWl41211DXl412jc1L40101bc21cc21010201010D010D0r10c106uq2Dft2E01090103hZ4
  12B45pn35Wy1w3vx15Zr21237Dib4d3Ws21Ws2m4Wd4HWd41Wd4Qrz41241Dpb41211Drb41211Dtb41211Dub412745tn3a
  4is1D0SxZ412K3AWy1w3vx15ub212J15Yo312L3_3494i5012x13C010R012X24Q0Z20Z1vh23012X27_371sg247478010Z
  5012W24Q0Z20Z1nZ330122A4xx1s1uz1w1zr11zr1Bug21cr11cr1Z4qy2Hqy21qy2122A4Wn2s14w1iw11iw1B41zh21zh2
  Z4fr3Hfr31fr3122A4zx1s1xz1w1pn21pn2BsW31Zr11Zr1Z4vy2Hvy21vy212O3_3797i5012O3_3797i50121A4fb2s1vg
  2w1g_11g_1BvW31.z11.z1Z4wy2Hwy21wy212v164cs3M0Z20a1Wi21Wi210122A4xt1s1Zv1w1rn21rn2BwW31ym11ym1Z4
  yy2Hyy21yy21216q3un21un2ByW3b4_y2H_y21_y2121A4d_1s1jY2w1cw11cw1Bwg21cv11cv1Z4_z2H_z21_z2121A4f_1
  s1mY2w1dw11dw1Bxg21dv11dv1Z4Y.2HY.21Y.2121A4.x1s1yz1w1zn21zn2B.W31br11br1Z4az2Haz21az2121A4gb2s1
  yg2w1h_11h_1B_W31_z11_z1Z4Z.2HZ.21Z.2121A4hb2s1Wh2w1i_11i_1BWX31W.11W.1Z4a.2Ha.21a.212N1D012Xj1T
  4ra1304030705030F0D02040G090101030901010101050901010101010KdE12W45Q0O0h10j50p2012.j1U4_Y13040307
  0502010F0D02040G090101030901010101050901010101010KaE12ui1T4uZ1304030705030F0D02040G0901010309010
  10101050901010101010KcE12zj1U4WZ130403070502010F0D02040G090101030901010101050901010101010KbE12P5
  40s14c24141412k23Q0Z20c101215q3hw11hw1m4yq3Hyq31yq312AA40s17w1l_11l_1B71717Z4jc3Hjc31jc312m23Q0Z
  20c1012m23Q0Z20c101235q3vk11vk1m4qc3Hqc31qc31211W4oY212R340z34141226q3uo21uo2BlY3b4sc3Hsc31sc312
  45q3vo21vo2m4tc3Htc31tc31235q3jw11jw1m4hr3Hhr31hr312r23Q0Z20c1012r23Q0Z20c101246q3wo11wo1Bth2b4v
  c3Hvc31vc31211W4712U340z34141225q3xo21xo2m4wc3Hwc31wc31216q3.o21.o2BnY3b4zc3Hzc31zc31225q3_o21_o
  2m4.c3H.c31.c31216q3Xp21Xp2BoY3b4Wd3HWd31Wd31216q3ap21ap2BpY3b4Zd3HZd31Zd31235q3bp21bp2m4ad3Had3
  1ad312y23Q0Z20c1012y23Q0Z20c1012y23Q0Z20c101246q3fw11fw1BqY3b4bd3Hbd31bd31211W4712.23Q0Z20c10122
  6q3dp21dp2BrY3b4dd3Hdd31dd31235q3ep21ep2m4ed3Hed31ed31216q3ip21ip2BtY3b4id3Hid31id31225q3jp21jp2
  m4jd3Hjd31jd31216q3kp21kp2BuY3b4kd3Hkd31kd31225q3mp21mp2m4md3Hmd31md31216q3pp21pp2BwY3b4pd3Hpd31
  pd31225q3qp21qp2m4qd3Hqd31qd31216q3rp21rp2BxY3b4rd3Hrd31rd312d33Q0Z20c1012d33Q0Z20c1012d33Q0Z20c
  101246q3wp21wp2ByY3b4wd3Hwd31wd31265q3xp21xp2m4xd3Hxd31xd31216q3_p21_p2BzY3b4_d3H_d31_d31225q3Wq
  21Wq2m4We3HWe31We312h33Q0Z20c1012h33Q0Z20c1012h33Q0Z20c1012h33Q0Z20c101215q3nW11nW1m4Xt3HXt31Xt3
  12h33Q0Z20c1012h33Q0Z20c1012h33Q0Z20c1012h33Q0Z20c1012h33Q0Z20c101215q3mw11mw1m4eu3Heu31eu312i33
  Q0Z20c1012i33Q0Z20c1012i33Q0Z20c1012i33Q0Z20c1012i33Q0Z20c10120Q1lc32ZZ13ZZ14ZZ19ZZ1d1ZZ14ZZ1m11
  HZZ11ZZ11ZZ11ZZ12ZZ11ZZ11ZZ11ZZ11ZZ11ZZ11ZZ11ZZ11ZZ11ZZ11ZZ11ZZ1P1k5pi5820M8x53v11v11v1D_X12v1Cv
  15v11v12v12nb1Av11kb1Ov12v16fb1H1Lx5Hv1K1Y3ju2p2sv2821I8aV3cA1cA1cAFcACcA5cA1cA2cA2ct2AcA1ws2OcA
  2cAi1aVHcAs3ku2p2tv2821I8ZV3bA1bA1bAFbACbA5bA1bA2bA2dt2AbA1xs2ObA2bAi1ZVHbAs3lu2p2uv2820L8gB1z12
  z11z11z1Dz12z1Cz15z11z12z12z1Az11z1Oz12z16z1H1LgBHz1K1821J8hB1.12.11.11.1D.12.1C.15.11.12.12.1A.
  11.1O.12.16.1c1hBH.1821J8tJ1g32g31g31g3Dg32g3Cg35g31g32g32g3Ag31g3Og32g36g3c1tJHg3821J8sJ1f32f31
  f31f3Df32f3Cf35f31f32f32f3Af31f3Of32f36f3c1sJHf382208220821J8vJ1i32i31i31i3Di32i3Ci35i31i32i32i3
  Ai31i3Oi32i36i3c1vJHi382608220822082A0821J8uJ1h32h31h31h3Dh32h3Ch35h31h32h32h3Ah31h3Oh32h36h3c1u
  JHh382208220821J8z71g12g11g11g1Dg12g1Cg15g11g12g12g1Ag11g1Og12g16g1c1z7Hg1821J8iB1_12_11_11_1D_1
  2_1C_15_11_12_12_1A_11_1O_12_16_1c1iBH_182108210824082108210821J8jB1W22W21W21W2DW22W2CW25W21W22W
  22W2AW21W2OW22W26W2c1jBHW282108210821J8.71h12h11h11h1Dh12h1Ch15h11h12h12h1Ah11h1Oh12h16h1c1.7Hh1
  821082108210821J8kB1X22X21X21X2DX22X2CX25X21X22X22X2AX21X2OX22X26X2c1kBHX282108210821J8lB1Y22Y21
  Y21Y2DY22Y2CY25Y21Y22Y22Y2AY21Y2OY22Y26Y2c1lBHY282108210B20K1kO7ww13rN1pX2Sfv28qw21mO1mq12bb2f1Z
  Y1H1c1yk2K1w1rv33mq33rv3r3_b36gX51nf4S.b3120K8fK1t22t21t21t2Ft2Ct25t21t22t22tw1At2Pt22t26fb1H1Lt
  2Ht2K1r5nv2150K8c53c51c51c53c51c54c55c51c5Dc55c5e1c52s46c5H1Lc5Hc5Gc51c531151I8d53d51d51d53d51d5
  4d55d51d5Dd55d5e1d52t46d5c1d5Hd5Gd51d5B243q1Wb2f9eg3Z1dg3820J1_b33qW22pa35j_13Yb3Cye1OrW23c31d37
  ye1W1ye1H1w11DaW52zf51zf5j2yu3KbW59zu3125H8xB1d22d21d21d2Fd2Cd25d21d22d220Ad2Pd22d2i1d2Hd2f6qv21
  26390w30RYd282j159v1H0Z20j50p20821H8.S1tA2tA1tA1tAFtACtA5tA1tA2tA2vf4AtA1se4OtA2tAi1.SHtA821H8iS
  1c82c81c81c8Fc8Cc85c81c82c82c8Ac81c8Oc82c8i1iSHc8821H8xS1r92r91r91r9Fr9Cr95r91r92r92r9Ar91r9Or92
  r9i1xSHr9821H8yS1s92s91s91s9Fs9Cs95s91s92s92s9As91s9Os92s9i1ySHs9121I8rJ1v32v31v31v3Fv3Cv35v31v3
  2v32d6Av310Ov32v36v3c1v3Hv3121I8zJ1Z32Z31Z31Z3DZ32Z3CZ35Z31Z32Z32Z3AZ3PZ32Z360c1Z3HZ3121H8.J1a32
  a31a31a3Da32a3Ca35a31a32a32a3Aa3Pa32a3i1a3Ha31231o1e6122H8WU1k92k91k91k9Dk92k9Ck95k91k92k92k9Ak9
  Pk92k9i1k9Hk912301250121H8XU1l92l91l91l9Dl92l9Cl95l91l92l92l9Al9Pl92l9i1l9Hl985w1H8v1Iwr11v110C0
  60202pW2A01nW2Qx56rr1c10X1v11v1b3j.2p2_Y3851F8cA3cA1cA1cAEcAIcA5jg4BZf4OcA2aVz1cAGcA1cAb3k.2p2WZ
  3851F8bA3bA1bA1bAEbAIbA5kg4Baf4ObA2ZVz1bAGbA1bAb3l.2p2XZ3120I8lO1_32_31_31_3F_3C_35_31_32_3C_3P_
  32_3N1L_3H_3A_3A1120I8sS3w81w81w8D_X12w8Cw85w81w82w82oW2Aw8Pw82w8N1c1w8K1Y3Wv2122H8tS1m92m91m91m
  9Fm9Cm95m91m92m92bt2Am9Pm92m9i1m9Hm9A0123G8kU1t92t91t91t9Ft9Ct95t91t92t9Ct9Pt92t9i1t9Ht9At9122G8
  _J1k32k31k31k3Fk3Ck35k31k32k32k3Ak3Pk32k3i1k3Hk31210121H8jS1Y92Y91Y91Y9DY92Y9CY95Y91Y92Y920AY9PY
  92Y9i1Y9HY9121G8kS1Z92Z91Z91Z9DZ92Z9CZ95Z91Z92Z9CZ9PZ92Z9i1Z9HZ9121G8lS1a92a91a91a9Da92a9Ca95a91
  a92a9Ca9Pa92a9i1a9Ha9220HW2kj11kj11kj11kj11kj11kj11kj11kj11kj11kj11kj11kj11kj11kj11kj1W11w11122G
  8iU1eA2eA1eA1eAD02eACeA5eA1eA2eACeAPeA2eAi1eAHeA12T2z20W80121F8wJ1r22r21r21r2Fr2Cr25r21r22r2Cr2P
  r22r2i1r2Hr2121F8WK1X32X31X31X3FX3CX35X31X32X3CX3PX32X3i1X3HX3121F8uI1s32s31s31s3Fs3Cs35s31s32s3
  Cs3Ps32s3i1s3Hs31211j1zW2124012X13o10B0c2v1121F8_S1j82j81j81j8Fj8Cj85j81j82j8Cj8Pj82j8i1j8Hj8121
  F8pU1kA2kA1kA1kAFkACkA5kA1kA2kACkAPkA2kAi1kAHkA121F8gO1Y82Y81Y81Y8FY8CY85Y81Y82Y8CY8PY82Y8i1Y8HY
  8121F8uS1n82n81n81n8Fn8Cn85n81n82n8Cn8Pn82n8i1n8Hn8121F8vS1y92y91y91y9Fy9Cy95y91y92y9Cy9Py92y9i1
  y9Hy9128B8nY11WC2WC1WC1WCFWCCWC6WC2WCCWCd2WC121E8gU1aB2aB1aB1aBFaBCaB6aB2aBCaBPaB2aBi1aBHaB121F8
  wS1z92z91z91z9Fz9Cz95z91z92z9Cz9Pz92z9i1z9Hz9121F8ZK1r32r31r31r3Fr3Cr35r31r32r3Cr3Pr32r3i1r3Hr31
  21F8zS1t72t71t71t7Ft7Ct75t71t72t7Ct7Pt72t7i1t7Ht7121F8eU1ZA2ZA1ZA1ZAFZACZA5ZA1ZA2ZACZAPZA2ZAi1ZA
  HZA121F8fU1aA2aA1aA1aAFaACaA5aA1aA2aACaAPaA2aAi1aAHaA121F8jU1fA2fA1fA1fAFfACfA5fA1fA2fACfAPfA2fA
  i1fAHfA121F8mU1hA2hA1hA1hAFhAChA5hA1hA2hAChAPhA2hAi1hAHhA121F8cU1YA2YA1YA1YAFYACYA5YA1YA2YACYAPY
  A2YAi1YAHYA121F8oK1Y42Y41Y41Y4FY4CY45Y41Y42Y4CY4PY42Y4i1Y4HY4121F8qU1lA2lA1lA1lAFlAClA5lA1lA2lAC
  lAPlA2lAi1lAHlA121F8lU1gA2gA1gA1gAFgACgA5gA1gA2gACgAPgA2gAi1gAHgA120Hr1t11u1n1e4716vh4Me41e41e41
  e41e41e4Hob11e41e461z2Zj5t2Zj51213q3wh4n4bj5t2cj51213q3xh4n4ej5t2fj51213q3yh4n4hj5t2ij5125F8nU1i
  A2iA1iA1iAFiACiA5iA1iA2iACiAPiA2iAi1iAHiA121F8YU1.92.91.91.9F.9C.95.91.92.9C.9P.92.9i1.9H.9121F8
  hU1dA2dA1dA1dAFdACdA5dA1dA2dACdAPdA2dAi1dAHdA121F8pK1Z42Z41Z41Z4FZ4CZ45Z41Z42Z4CZ4PZ42Z4i1Z4HZ41
  21F8oU1jA2jA1jA1jAFjACjA5jA1jA2jACjAPjA2jAi1jAHjA121F8ZU1_92_91_91_9F_9C_95_91_92_9C_9P_92_9i1_9
  H_9121F8aU1WA2WA1WA1WAFWACWA5WA1WA2WACWAPWA2WAi1WAHWA121F8bU1XA2XA1XA1XAFXACXA5XA1XA2XACXAPXA2XA
  i1XAHXA85.2C8z110Iz110C06020C0RgBi10X1z11z185Y3C8.110I.110C06020C0RhBi10X1.11.185e3C8g310Ig310C0
  6020C0RtJi10X1g31g385e3C8f310If310C06020C0RsJi10X1f31f38520852085e3C8i310Ii310C06020C0RvJi10X1i3
  1i385608520852085A085e3C8h310Ih310C06020C0RuJi10X1h31h38520852085a3C8g110Ig110C06020C0Rz7i10X1g1
  1g185e3C8_110I_110C06020C0RiBi10X1_11_18510851085408510851085e3C8W210IW210C06020C0RjBi10X1W21W28
  510851085d3C8h110Ih110C06020C0R.7i10X1h11h185108510851085e3C8X210IX210C06020C0RkBi10X1X21X285108
  51085e3C8Y210IY210C06020C0RlBi10X1Y21Y28510851015Z3E8t2Jt210C060202wt2A0RfK6rr1X2ka26t21t2u5uY38
  6s2B8050Dyt1Ont2BYt2Qv16qt1d206v1W3Wa3p2Zf386s2B8050Dyt1Owg4Bcf4QcA6qt1d206cAW3Xa3p2af386s2B8050
  Dyt1Oxg4Bdf4QbA6qt1d206bAW3Ya3p2bf322j2FW2lj11lj11lj11lj11lj11lj11lj11lj11lj11lj11lj11lj11lj11lj
  11lj112m13q3Wi4n4uk5t2uk51213q3Xi4n4wk5t2xk51213q3Yi4n4zk5t2.k51213q3Zi4n4Wl5t2Xl5225FW2oj11oj11
  oj11oj11oj11oj11oj11oj11oj11oj11oj11oj11oj11oj11oj11223q3di4n4_l5t2_l51213q3ei4n4Xm5t2Ym51213q3f
  i4n4am5t2bm51213q3gi4n4dm5t2em5225FW2rj11rj11rj11rj11rj11rj11rj11rj11rj11rj11rj11rj11rj11rj11rj1
  1223q3ni4n4cn5t2cn51213q3oi4n4en5t2fn51213q3pi4n4hn5t2in51213q3qi4n4kn5t2ln5225FW2sj11sj11sj11sj
  11sj11sj11sj11sj11sj11sj11sj11sj11sj11sj11sj11223q3vi4n4go5t2go51213q3wi4n4io5t2jo51213q3xi4n4lo
  5t2mo51213q3yi4n4oo5t2po5225FW2uj11uj11uj11uj11uj11uj11uj11uj11uj11uj11uj11uj11uj11uj11uj1221FW2
  mj11mj11mj11mj11mj11mj11mj11mj11mj11mj11mj11mj11mj11mj11mj1221FW2xj11xj11xj11xj11xj11xj11xj11xj1
  1xj11xj11xj11xj11xj11xj11xj1221FW2qj11qj11qj11qj11qj11qj11qj11qj11qj11qj11qj11qj11qj11qj11qj112X
  4C1oj25kv16Yt1201.f3B0O0B0W10u2sW5m2cv3Tdv3150G8l14kd29m.35kR1kd2Dp2r1Z1H1Lww3Y1kd231g2zq3Bml4Ib
  e3i1dw3c1bb512Z3390w30RYd2120G1si2c3E71Asi2IE1E1E1E1E1EHi41E1E61b5rv2FYi512d3390w30Rhv21548Cen19
  r_16en1e3xw3Y1en1j2dr3BYm4.1Yx31515Qt8f3yw3l3Zm4Tbb3o2dd51518Lp.35r5f3zw3l3kb5Bcm4I_p3i1ax3c1XW5
  B2d4D1Zl27t23Xt120F0C0602io41Xt13Xt180u2fKA0150G8p94_L1wq1Dt81BDBr1Z1H1LBX1B1B31d3.j3o2jZ5Ifk41g
  k412.2390w30RYd21568Cyq19s_16yq1e3Wx3Y1yq1j2or3Bnm4.1rx31515Qt8f3Xx3l3qm4Tbb3o2dd51568Cza19q.36z
  a1e3Yx3Y1za1j2yb5Btm4.1ux31514Lr.3k3Zx3w3um4.1vx31514Ly.3k3ax3w3_m4.1_x31514Lz.3k3bx3w3Wn4.1Wy31
  568CXK9rb26XKe3ex3Y1XKj2yr3Ben4.1ky31518L..35r5f3fx3l3jc5Bhn4I_p3i1ny3c1XW51514L_.3k3gx3w3ln4.1q
  y31514Lo_3k3hx3w3co4.1bz31514Lp_3k3ix3w3do4.1cz31514Lx_3k3jx3w3ko4.1iz31514Ly_3k3kx3w3en4.1jz315
  78CnD9sb26nDe3nx3Y1nDj2Ys3Bro4.1.z31518Lz_35r5f3ox3l3yc5Bzo4I_p3i1Y.3c1XW51514LpW4k3px3w3gq4.1_.
  31514LqW4k3qx3w3kq4.1Y_31514LaX4k3rx3w3ar4.1o_31518CxO9nX46xOe3ux3Y1xOj2Xd5Bnt4.1XX415L2Dtq1cBZz
  415x11.4015j4D8w8Iwr11w810C060202it2A0RsSj2w81w8b3fX31531Duq112V41_i2t3_i2r6ee3Fgk51521Dvq112241
  ig2t3ig2r6i.1Fnl51521Dxq112241zi2t3zi2r6uZ3Fum512141Wg2t3Wg2r6xn1Fyn512b131fj2t3fj2a7bp512131dj2
  t3dj2a7Xr5B2i5A8040Snj18Zp14wb2W30f6rg36010Sqg315VB804np11np1806np1e3.w3X1np11np1j2bx3B0.1cx312Y
  1E8kW13n91n91n9Fn9Cn95n91n92n9Cn9PlL2n9z1n9A0121C8oY13bB1bB1bBFbBCbB5bB1bB2bBCbBRzLz1.L121D8dU3w
  91w91w9Fw9Cw95w91w92w9Cw9Pw92w9z1pm41543e1tk3x2_w3l3rn31558Cpp11pp1Epp1e3cx3X1pp11pp1j2Yy3f2ay31
  2.3590i2lL2zLi10H.L121C8lW13o91o91o9Fo9Co95o91o92o9Co9Ro9z1o91532Z4dx3l3sn3123A8mY13ZB1ZB1ZBFZBC
  ZB5ZB1ZB2ZBCZB121A8lY13YB1YB1YBFYBCYB5YB1YB2YBCYB1538Cqp11qp1Eqp1e3lx3X1qp11qp1j2oz3f2qz3122A8jY
  13WB1WB1WBFWBCWB5WB1WB2WBCWB12x3590i2lL2zLi10H.L1532Z4mx3l3vn31518Ctp11tp1Etp1e3sx3X1tp11tp1j2v_
  3f2x_31512Z4tx3l3xn31518Cvp11vp1Evp1e3vx3X1vp11vp1j2xX4f2zX41512Z4wx3l3zn3126A8kY13XB1XB1XBFXBCX
  B5XB1XB2XBCXB16W198050b1.t2b1t26qt1X2ha2606t2p5.f315W188ZR3ZR1ZR1ZREZRI0t3ZR1ZR15Y1D8d23d21d21d2
  Ed2Id250Z1d22xBz1d2Gd21d2u5zY385p54Q0Z20j50p20851D8tA3tA1tA1tAEtAItA5lg4Bbf4OtA2.Sz1tAGtA1tA85W6
  C8c810Ic810C06020C0RiSi10X1c81c885W6C8r910Ir910C06020C0RxSi10X1r91r985W6C8s910Is910C06020C0RySi1
  0X1s91s915W6C8v310Iv310C06020C0RrJi10X1v31v315x5C8Z310IZ310C06020C0RzJi10X1Z31Z315z5C8a310Ia310C
  06020C0R.Ji10X1a31a31531o1e615W6C8k910Ik910C06020C0RWUi10X1k91k91530155015W6C8l910Il910C06020C0R
  XUi10X1l91l9859D8_53_51_51_5E_5I_55_5B_5O_52h9z1_5G_51_5851D8W63W61W61W6EW6IW65W6BW6OW62i9z1W6GW
  61W6851D8X63X61X61X6EX6IX65X6BX6OX62j9z1X6GX61X686a458050g2z1j206z186e458050g2.1j206.186k458050g
  2g3j206g386k458050g2f3j206f38620862086k458050g2i3j206i386608620862086A086k458050g2h3j206h3862086
  2086g458050g2g1j206g186k458050g2_1j206_18610861086408610861086k458050g2W2j206W28610861086j458050
  g2h1j206h186108610861086k458050g2X2j206X28610861086k458050g2Y2j206Y286108610B2g23q1yb2f9zg3Z1yg3
  120E1lv14i.11b.16hh41ih41c.1d1fT1gTu11w119tg58dk4i2tg5KtW512s32C030B236e108aW22nq12up3f9Wc3Z1Xc3
  12b7A8cl23ZR1ZR10FZRC0501ZR20CZR15X38Cyw1906yw1e30Y1yw1j2gr3Bam4.1Zx312v7A803020F0C_m180C0d2ho4R
  0z4pZ51526Cfn1Ffn1g4fn1j2nr3Bom4.1sx31514Qt8u6rm4Tbb3o2dd515W38Czw1906zw1e30Y1zw1j2zb5Bzm4.1.x31
  5X28Cop11op1Eop1e30X1op11op1j2cy3f2dy315w24C_e11_e1cB0101521o7tn31566Czq1Fzq1g4zq1j2xr3Bbn4.1jy3
  1514Qt8u6fn4Tbb3o2dd51566CWOFWOg4WOj2ic5Bjn4.1py31512z7on4.1ty31512z7io4.1hz31512z7mo4.1lz31577C
  rp11rp1Erp1f4rp11rp1j2mz3f2rz31511o7un31586CXx1FXx1g4Xx1j2Xs3Bpo4.1zz31546Cd9Fd9g4d9j2xc5Bvo4.1X
  .31512z7_o4.1a.31512z7iq4.1X_31512z7nq4.1b_31512z7cr4.1q_31512z7fr4.1s_31587Csp11sp1Esp1f4sp11sp
  1j2t_3f2w_31511o7wn31596CZx1FZx1g4Zx1j2bs3Bkr4.1XW41546Cl6Fl6g4l6j2Wd5Brr4.1aW41512z7jt4.1WX4151
  2z7pt4.1ZX41512z7tu4.1uX41567Cup11up1Eup1f4up11up1j2vX4f2yX41511o7yn31536CnCFnCg4nCj2Yd5Bgw4.1mY
  41527Cwp11wp1Ewp1f4wp11wp1j2yY4f2_Y41511o7.n315g8C8_310I_310C06020C0RlOi10X1_31_3151D8m93m91m91m
  9Em9Im95jt2Z1m92tSz1m9A06m91m9152C8t93t91t91t9Et9It9e1t92kUz1t9At96t91t9152C8k33k31k31k3Ek3Ik35k
  3Z1k32_Jz1k3Gk31k3151015_4B8X3JX310C06020C0RWKd2ka26X31X315X33z20X2jl2_5015h8C8Y910IY910C06020C0
  RjSi10X1Y91Y9153B8r33r31r31r3Er3Ir3e1r32ZKz1r3Gr31r3152C8Z93Z91Z91Z9DZ91Z9IZ9e1Z92kSz1Z9GZ91Z915
  1C8a93a91a91a9Da91a9Ia9e1a92lSz1a9Ga91a916e31.4016e488050Dyt1Olt2b1w8j206w8W3hb315W54QBZ2Bo50o20
  1512Dtq1cBZz41511Dvq11511Duq11511Dxq1B2t13q1fm3f9fg3Z1gg312Y87801020Fg2E0K0k6Yp1B223q1wb4f9sg3Z1
  tg3B213q1ac4f9.g3Z1_g382zAB801v1201010Dbw120C080C0d20821A9cAa1cA1cA4ct2Bws2OcA2cAz1cAs3ku2p2tv28
  21A9bAa1bA1bA4dt2Bxs2ObA2bAz1bAs3lu2p2uv2C70DBxr1a1co24ar2g1gr1H1w111co2u1WY31WY31ka33hW21WY3m4W
  Y312X2B1ir14ir11hr16ch41ge41hr1Y5Yk41Zk480i2Zk4K0C727l1_r1w3_r1u1va31va34iX21va3m4va312Z2A5_j21q
  j23Yc33Yt11Yt110Z5oh580i2oh5KwX512a23C01ut2i5_Y515x13804B1B1221Duh415268BDB5BZ2Bo50o2015W188dh13
  dh11dh11dh1Edh1I0t3dh11dh1152B8pd14pd11pd18pd15pd11pd1Dpd1r1pd1c1pd1X1pd11pd115G8Rt710I020d1zSi1
  0X1t71t7153C8eA3eA1eA1eAEeAIeA50Z1eA2iUz1eAGeA1eA15V1.40151B8r23r21r21r2Er2Ir2e1r22wJz1r2Gr21r21
  5Y11.40151B8s33s31s31s3Es3Is3e1s32uIz1s3Gs31s31511j1_c2154016V6BZR1ZRFZRI0u3ZR5ZR152B8a63a61a61a
  6Ea6Ia6e1a62uAz1a6Ga61a615d42o10B0151B8j83j81j81j8Ej8Ij8e1j82_Sz1j8Gj81j8151B8kA3kA1kA1kAEkAIkAe
  1kA2pUz1kAGkA1kA151B8n93n91n91n9En9In9e1eb12kW1z1n9Gn91n9151B8Y83Y81Y81Y8EY8IY8e1Y82gOz1Y8GY81Y8
  151B8n83n81n81n8En8In8e1n82uSz1n8Gn81n8151B8y93y91y91y9Ey9Iy9e1y92vSz1y9Gy91y9154A8bB3bB1bB1bBEb
  BIbBg1kn1z1je1GbB1bB15C78WC3WC1WC1WCEWCf4WC1WC151B8w93w91w91w9Ew9Iw9e1w92dUz1ei3Gw91w9152A8aB3aB
  1aB1aBEaBw1aB2gUz1aBGaB1aB151B8z93z91z91z9Ez9Iz9e1z92wSz1z9Gz91z9151B8e83e81e81e8Ee8Ie8e1e82yAz1
  e8Ge81e815N48t73t7F0m70151B8ZA3ZA1ZA1ZAEZAIZAe1ZA2eUz1ZAGZA1ZA151B8aA3aA1aA1aAEaAIaAe1aA2fUz1aAG
  aA1aA151B8fA3fA1fA1fAEfAIfAe1fA2jUz1fAGfA1fA151B8hA3hA1hA1hAEhAIhAe1hA2mUz1hAGhA1hA151B8YA3YA1YA
  1YAEYAIYAe1YA2cUz1YAGYA1YA151B8Y43Y41Y41Y4EY4IY4e1Y42oKz1Y4GY41Y41513r2eb12kn1z1je1151B8lA3lA1lA
  1lAElAIlAe1lA2qUz1lAGlA1lA152A8o93o91o91o9Eo9Io9g1lW1z1o9Go91o9151B8gA3gA1gA1gAEgAIgAe1gA2lUz1gA
  GgA1gA151B8f83f81f81f8Ef8If8e1f82zAz1f8Gf81f8151B8iA3iA1iA1iAEiAIiAe1iA2nUz1iAGiA1iA151B8.93.91.
  91.9E.9I.9e1.92YUz1.9G.91.915788WB3WB1WB1WBEWBIWBt3WB1WB151B8dA3dA1dA1dAEdAIdAe1dA2hUz1dAGdA1dA1
  51B8Z43Z41Z41Z4EZ4IZ4e1Z42pKz1Z4GZ41Z41513r2eb12kn1z1je1151B8g83g81g81g8Eg8Ig8e1g82.Az1g8Gg81g81
  51B8jA3jA1jA1jAEjAIjAe1jA2oUz1jAGjA1jA151B8_93_91_91_9E_9I_9e1_92ZUz1_9G_91_9151B8WA3WA1WA1WAEWA
  IWAe1WA2aUz1WAGWA1WA151B8h83h81h81h8Eh8Ih8e1h82_Az1h8Gh81h8151B8XA3XA1XA1XAEXAIXAe1XA2bUz1XAGXA1
  XA15788XB3XB1XB1XBEXBIXBt3XB1XB15h21.4015288ZB3ZB1ZB1ZBEZBIZBt3ZB1ZB15188YB3YB1YB1YBEYBIYBt3YB1Y
  B16n178050g2d26qt1d206d2p5_f386a558050g2_5j206_586l84Q0Z20j50p2086o578050b1yg4Bef4QtAj206tA86c55
  8050g2W6j206W686p558050g2c8j206c886p558050g2r9j206r986p558050g2s9j206s916j558050g2Z3j206Z316l558
  050g2a3j206a316n558050g2k9j206k91620164016n558050g2l9j206l986l558050g2X6j206X616w558050g2v3j206v
  31611o1e6C7i28l1lo24_r2s3lo2u1ja31ja34ko11ja3m4ja3C7j22p1_r2p5op1C718l1mo24Xs2s3mo2u1la31la34sb4
  1la3m4la3C722p1Xs2p5wb4C718l1no24Ys2s3no2u1na31na34ac41na3m4na3C722p1Ys2p5ec412l44e10x2t2Rma2z40
  120C1eb3AZPo2Z1H1c1on11pn1J1a2iW5Y1bW2Lxj42Yg5y1xi312111fb3B2u45o102bb2f10W80Z1.b312241gb3h7pX5Y
  1kX2p2ij312111hb312151ib3AzX1X7cY5Y1Zj2p2nj3C786Bfp4a1bx24ep4g1gh3i2bx2z1012q2A8Yg350E01dh1Idh14
  bt2Adh1Rm9j201012y23C01vs2Z5tY5150C8.s24gi19Xc26gi13Zn11Zn19p2c21t1gi131r2yw3.1jv315138l1z4wv2u2
  lk41231Dte412x21D015x248p94_e11_e18016r268050g2X3d2ha2606X315v66Q0O0Z1eb12kn1z1je1s3016e13z20X2g
  l2_5016i168050g2r3d2ha2606r3150CBnm11nm11nm1Enm1Dev2c21s1nm11nm131p4ns34ns3Fns31519Bpm11pm11pm1E
  pm1f4pm11pm1s4qs34qs3Fqs316Y458050g2_3j206_316Y468050b1mt2b1m9j206m916Y458050g2t9j206t916X458050
  g2k3j206k3161012K41kb3h7cb5Y1do1p2ho3B2O2q1Wb2iAdg312241mb3h7ub5Y1sp1p2no3B222q1wb2iAqg3B212q1yb
  2iAyg312T11jb312R11lb312Y49B0Fe_110Jw84oW2n2w8Y1050W3Wv212Y149t230t30Rja212411nb312411ob3121710A
  sr1f4ZN1jMt2aX5Y1d7p2ej3B2Z11e101224B.X1X7tX5Y1qNp2jj3120B8ji14ji11ji1Fji12ji11ji19ji16ji1W21Lji
  1b1112f45CgK1dZ1E0f40101234BZPX7XY5Y1pX2p2lj312398mi14mi11mi1Fmi12mi11mi19mi16mi1r2mi1B263m1bW24
  Yq3iAmc3B213m1cW24Zq3iAnc3B213m1dW24aq3iAoc3B232m1fW24bq31264Btr1X7oY5Y1XQp2pj312Y66Q0O0Z1lL2zLz
  1.Ls3012D3i7rY5Y1k7p2sj312C3i7xY5Y1wNp2tj312998li14li11li1Fli12li11li19li16li1r2li112198ki14ki11
  ki1Fki12ki11ki19ki16ki1r2ki112C3i7eZ5Y1sY2p2wj315j11L015j11L01234BzX1X7hZ5Y1fj2p2xj312598ni14ni1
  1ni1Fni12ni11ni19ni16ni1r2ni115.96Q0Z20c1r_1l30T0o20120BBrNg1ds21es2d1Yr2H1w11v1gx31gx31ma34gx32
  gx31214X7hx31hx35hx32hx3B2F51vh3Axp4b1hx21yp43hx2B2G2m1gW24fq3B212m1hW24gq312H3i7xZ5Y1ZRp2_j315_
  96Q0Z20c1s_1l30T0o201517Cza19s.36za1e3t.3Y1za1u2vm4.1wx31514Lu.3k3v.3w3wm4.1xx31514Lw.3k3x.3w3xm
  4.1yx312w11D015_96Q0Z20c1rb2l30T0o201514LW_3k3X_3w3mn4.1ry31514LY_3k3Z_3w3qn4.1uy31514Lb_3k3c_3w
  3rn4.1vy31514Ld_3k3e_3w3sn4.1wy31514Lf_3k3g_3w3tn4.1xy31514Lh_3k3i_3w3xn4.1.y31514Lj_3k3k_3w3yn4
  .1_y31514Lm_3k3n_3w3zn4.1Wz31514Lq_3k3r_3w3eo4.1dz31514Ls_3k3t_3w3fo4.1ez31514Lu_3k3v_3w3go4.1fz
  315aA6Q0Z20c1sb2l30T0o201514L._3k3__3w3cp4.1d.31514LWW4k3XW4w3gp4.1g.31514LYW4k3aW4w3hp4.1h.3151
  4LbW4k3cW4w3lp4.1k.31514LdW4k3eW4w3up4.1p.31514LfW4k3gW4w3vp4.1q.31514LhW4k3iW4w3wp4.1r.31514LjW
  4k3kW4w3xp4.1s.31514LlW4k3mW4w3_p4.1v.315A3LnW4k3oW4u5w.31514LrW4k3sW4w3lq4.1Z_31514LtW4k3vW4w3p
  q4.1c_31514LwW4k3xW4w3qq4.1d_31514LyW4k3zW4w3rq4.1e_31514L.W4k3_W4w3sq4.1f_31514LWX4k3XX4w3wq4.1
  i_31514LYX4k3ZX4w3xq4.1j_31517CxO9rq26xOe3rq2Y1xOu2mr4.1YW41514LbX4k3cX4w3Ws4.1dW41523LdX4k3eX4u
  5kW41514LfX4k3gX4w3ps4.1nW41514LhX4k3iX4w3qs4.1oW41514LjX4k3kX4w3us4.1rW41514LlX4k3mX4w3Xt4.1wW4
  1514LoX4k3pX4w3wt4.1cX41514LqX4k3rX4w3.t4.1fX41514LtX4k3uX4w3_t4.1gX41514LvX4k3wX4w3Zu4.1jX41514
  LxX4k3yX4w3hu4.1oX41517Cax19zX46ax1e3.X4Y1ax1u2nv4.1cY41514L_X4k3WY4w3rw4.1pY416W37D0Rdv2y306nm1
  n4jZ44jZ4FjZ416W37D0Rdv2y306pm1n4wZ44wZ4FwZ412i22DcZ1cBZz416a31.4016m478050e2qn12hq1z1jq1G06ZB16
  16BYB1YBFYBIYBu3YB5YB1241DbZ116a36Bdh11dh1Fdh1I0u3dh15dh11221Drt11211Dut116c658050g2eAj206eA16j3
  1.4016Y658050g2r2j206r216n31.4016c658050g2s3j206s31611j1Xd2164016b658050g2a6j206a616w42o10B016b6
  58050g2j8j206j816b658050g2kAj206kA16b668050e2qn12n9j206n916b658050g2Y8j206Y816b658050g2n8j206n81
  6J6BbB1bBFbBIbBu3bB5bB16A5BWC1WCFWCg4WC5WC16a668050g2w9z1si3G06w916a668050W1Xd2g1aBj206aB16r7680
  50D0z1Y9j206Y916a658050g2e8j206e816a658050g2t7j206t716a658050g2ZAj206ZA16a658050g2aAj206aA16a658
  050g2fAj206fA16a658050g2hAj206hA16a658050g2YAj206YA16a658050g2Y4j206Y41613r2qn12hq1z1jq116a65805
  0g2lAj206lA16a668050e2qn12o9j206o916a658050g2gAj206gA16W868050D0z1Z9j206Z916b658050g2f8j206f816b
  658050g2iAj206iA16b658050g2.9j206.91686BWB1WBFWBIWBu3WB5WB16b658050g2dAj206dA16b658050g2Z4j206Z4
  1613r2qn12hq1z1jq116d868050D0z1a9j206a916c658050g2g8j206g816c658050g2jAj206jA16c658050g2_9j206_9
  16c658050g2WAj206WA16c658050g2h8j206h816c658050g2XAj206XA1686BXB1XBFXBIXBu3XB5XB16c758050g2y9j20
  6y916Y758050g2z9j206z91619Bc51c5Fc5Ic5e1c52c5z1c5Hc55c512p11Dvt11629Bd51d5Fd5Id5e1d52d5z1d5Hd55d
  512x33i7mb5Y1ka2p2lo3B2t41e1012W43i7xb5Y1Wa4p2oo312x33i7.b5Y1vp1p2po3B2f41q1mm3B2f42q1nm3iAlg3B2
  f42q1om3iAmg3B2f41q1pm31263i7cc5Y1ea4p2qo31293i7ec5Y1qa2p2to31223i7hc5Y1pa4p2uo31283i7nc5Y1tq1p2
  vo3B2.31q1sm3B2.31q1tm31243i7vc5Y1Xb4p2wo31263i7ed5Y1Xb2p2xo3B2a51e10B2D1q1yb4B2D2q1zb4iAvg3B2D2
  q1.b4iAwg3B2D1q1_b41263i7nd5Y1gb2p2.o3B2A1q1Xc4B2A1q1Yc4B2h51e10B281q1cc4B282q1dc4iAWh3B282q1ec4
  iAXh3B281q1gc4B271q1ic4B271q1jc412l549w830Ebw1f30120A1ko1Agb1Y1.c1X21g1nc3G1N_e4Tti34ti3Uti3720A
  1fa3Jbq1SZW21qy33pp3w11w11y1WW31ub3z3yj415e63U010c4gi112b93903010120A1ca36y2d31Aqi2m11Bxf4y4_s21
  Wt21iu21iv2C80Aj3u_1111qn31ur1s1ts121_2aq3X2fw3r1aq38fw3B20Ae1p2c21h1oq11pq11qq1D1m4px31px31px31
  px312o96D0Dg620I0r20d4cX2B224u9ly31ly31ly31ly3B214u9vz31vz31vz31vz3B214u9wz31wz31wz31wz315i67803
  01iy11iy1Eiy1f4iy11iy11515Cjy11jy1Ejy1f4jy11jy11515Cky11ky1Eky1f4ky11ky1B244u9xz31xz31xz31xz3B21
  4u9__31__31__31__3B214u9WW41WW41WW41WW4B214u9.X41.X41.X41.X4B214u9_X41_X41_X41_X4B20A1w4Ad6Lw4Gd
  61d61d62d6f1d6H1w11B2181x4Ae6Lx4Ge61e61e62e6f1e616x16BZR1ZRFZRI0u3ZR5ZR150ABYn11x11x1Ex1NZc2y11s
  1x11x131Ooc41511o1ac212x179c5202c5E0Jc5t305012w179d5202d5E0Jd5t305082X879_52010F0J_5t305082_779W
  62010F0JW6t305082s779X62010F0JX6t305072S51ha3m1xy33cm3m5tX31ag312Q71a_2t3v_2x1hh4y4Ys11Zs11hx11i
  x1C8Q4j3js12qm3u4zs3s3zs312271ka3t3ya3x1qh4y4vu21wu21i.21oY3C821l3iq312271q.2t3t.2x1yh4y4oj11pj1
  1bl11cl1C821l3jp312271oa3t3bb3x1ai4y4lx21mx21.Z31te3C821l3kq3C8X11l3vq3C821l3ar3C813l3op3v6qd4z1
  qd412f12u4Xd3d1Zh412b47B0G0Jr3r2r3Rma2705012d141Zb3o5oi4y4yX31zX31227CX3X1X31X3d1X32X3i1X3HX312W
  47B0G0Jd2r2d2Rll2705012531_x1t40d1.e412091qZ43oY4Mr5Z2Z1H1w11g2jW5T_p3o2XW58209Qg6Ou8Bp1W1ZY1H1w
  11i2nW5MeW2p2oW51231_5_e412351030a1Wu3x2br2l3zW512421tZ43qY415o11L012098Xo44mL1mLFmLCmL6mLW21LmL
  b1112118mL12098_t14dw2Gdw2C_m1c21LsY4b11r2WX5.1gf412Z24z20l4cX5Y1yW2p2012631uZ43tY4k7dX512091fc2
  n1rt23t11u1u11w11y1dNX1aOb1sO3209Bg7o2Zt2H1c1mW2Fh551c4zk4m1fP3uv312C81sq1i1sq150B0u1sq1_30MfX2p
  2jX512_24Czl11zl1cB01012521Xa43wY415098rY14rY1FrY13rY11rY19rY1c21t1rY13115178sY14sY1FsY13sY11sY1
  9sY1z3sY112G1_5jl412K41ty3x6fc34fc3Ufc312I41uy3x6gc34gc3Ugc312098ww14pX2S.W28pX2.11c1.W2K1x5gX51
  nf412D3Bsr1X7dY5Y1h71224Crw2a1rw2p9lY51.f4B2091we37cz33hX2Tnj18hX21hX23hX2w11w1182O2o1rf4u6rw112
  H2i7sY5Y1oY21213B.X1X7vY5Y1uN12P1e1vd41232i7bZ5Y1qY215D78rb14rb1Frb13rb11rb19rb1z3rb11223BzX1X7i
  Z5Y1hj215R5Cyw1Fyw1g4yw1u2am4.1Zx31223Btr1X7uZ5Y1yQ3209B_f31Zy1c1yt2h1..1H1r1do451r5oy4c1jg482Y1
  3z2fb1j5zw1p2gh312E2i7wZ5Y1p712A2i7.Z5Y1_N12O4804hb11Zu1cB.z412oB4L060f401012B2i7da5Y1nZ212A2i7f
  a5Y1nj215A5Cfn1Ffn1g4fn1u2om4.1sx31515Czw1Fzw1g4zw1u2ym4.1zx31518804wy11wy1Ewy1f4wy11wy1u20.1Zy3
  12C2i7ma5Y1qR1535Czq1Fzq1g4zq1u2bn4.1jy31515CWOFWOg4WOu2in4.1oy31512z7nn4.1sy31512z7un4.1yy31512
  z7vn4.1zy31512z7.n4.1Xz31512z7_n4.1Yz31512z7Xo4.1Zz31512z7Yo4.1az31512z7ho4.1gz31512z7lo4.1kz315
  D6Cyy11yy1Eyy1f4yy11yy1s4pz31516Czy11zy1Ezy1f4zy11zy1s4sz31535CXx1FXx1g4Xx1u2po4.1zz31515Cd9Fd9g
  4d9u2uo4.1W.31512z7.o4.1Z.31512z7Xp4.1b.31512z7Yp4.1c.31512z7dp4.1e.31512z7ep4.1f.31512z7ip4.1i.
  31512z7jp4.1j.31512z7mp4.1l.31512z7np4.1m.31512z7pp4.1n.31512z7qp4.1o.31512z7yp4.1t.31512z7zp4.1
  u.31512z7Wq4.1x.31512z7Xq4.1y.31512z7Zq4.1z.31512z7aq4.1..31512z7hq4.1W_31512z7mq4.1a_31512z7tq4
  .1g_31512z7uq4.1h_31512z7yq4.1k_31512z7zq4.1l_31512z7_q4.1m_31512z7Wr4.1n_31512z7br4.1p_31512z7e
  r4.1r_315U6CWz11Wz1EWz1f4Wz11Wz1s4y_31525CZx1FZx1g4Zx1u2kr4.1XW41515Cl6Fl6g4l6u2qr4.1ZW41512z7xr
  4.1bW41512z7yr4.1cW41512z7Xs4.1eW41512z7Ys4.1fW41512z7as4.1gW41512z7bs4.1hW41512z7fs4.1iW41512z7
  gs4.1jW41512z7ms4.1lW41512z7ns4.1mW41512z7rs4.1pW41512z7ss4.1qW41512z7vs4.1sW41512z7ws4.1tW41512
  z7ys4.1uW41512z7zs4.1vW41512z7Yt4.1xW41512z7Zt4.1yW41512z7bt4.1zW41512z7ct4.1.W41512z7it4.1_W415
  12z7ot4.1YX41512z7rt4.1aX41512z7st4.1bX41512z7xt4.1dX41512z7yt4.1eX41512z7Wu4.1hX41512z7Xu4.1iX4
  1512z7au4.1kX41512z7bu4.1lX41512z7cu4.1mX41512z7du4.1nX41512z7iu4.1pX41512z7ju4.1qX41512z7lu4.1r
  X41512z7mu4.1sX41512z7su4.1tX41515CnCFnCg4nCu2.u4.1WY41512z7av4.1YY41512z7bv4.1ZY41512z7iv4.1aY4
  1512z7jv4.1bY41512z7ov4.1dY41512z7pv4.1eY41512z7rv4.1fY41512z7sv4.1gY41512z7wv4.1hY41512z7xv4.1i
  Y41512z7Xw4.1jY415C1x9kY41512z7fw4.1lY41512z7mw4.1nY41512z7nw4.1oY41512z7sw4.1qY41512z7tw4.1rY41
  512z7vw4.1sY41512z7ww4.1tY41512z7.w4.1uY41512z7_w4.1vY41512z7ax4.1wY41512z7bx4.1xY41515Cgn1Fgn1g
  4gn1u2nx4.1WZ41512z7ox4.1XZ41512z7Wy4.1YZ41512z7Xy4.1ZZ41209CoO1cu1Ecu11cu1Ccu16cu1W21w11o6nn315
  rB6D0Eji110I0r20Y1ji115pB6D0Emi110I0r20Y1mi11236Cjp41ti1Eti11ti1Cti16ti115iB6D0Eli110I0r20Y1li11
  5iB6D0Eki110I0r20Y1ki115eB6D0Eni110I0r20Y1ni115x58BvO1kl11kl1Ekl1N0o3kl11kl1RWY51516Cll11ll1Ell1
  f4ll11ll1RYZ51516Cml11ml1Eml1f4ml11ml1RaZ51516Col11ol1Eol1f4ol11ol1RYa51516Cnl11nl1Enl1f4nl11nl1
  Raa51516Cpl11pl1Epl1f4pl11pl1Rna51516Cql11ql1Eql1f4ql11ql1Rpa51516Crl11rl1Erl1f4rl11rl1Rsa51516C
  sl11sl1Esl1f4sl11sl1Rua51516Ctl11tl1Etl1f4tl11tl1Rwa51516Cul11ul1Eul1f4ul11ul1Rya51516Cvl11vl1Ev
  l1f4vl11vl1R.a51516Cwl11wl1Ewl1f4wl11wl1RWb51516Cxl11xl1Exl1f4xl11xl1RXb51518Bpi11pi11pi1Epi1Dpi
  1y3pi11pi1R01517Bqi11qi11qi1Eqi1Dqi1y3qi11qi11517Bri11ri11ri1Eri1Dri1y3ri11ri11517Bsi11si11si1Es
  i1Dsi1y3si11si115j61o101518Bd61d61d6Ed6Nd6o3d61d6R01517Be61e61e6Ee6Ne6o3e61e682_45Qg2Ol2Y6hb5Mho
  1p2ib512m42i7nb5Y1uo112l571pb2n1cj43c31d3k5wh3X1do3b1iZ432l55BdRu4xQh4iz4m1rZ43wc412l53Qg2m7mp1p
  2rb512r42i7Wc5Y1oa28262o1gt2u6lk11262i7fc5Y1pq112x42i7gc5Y1oa41222i7kc5Y1rq11222i7tc5Y1xa482B3z2
  fb1j5mk1p2uX312f649r330t30Rja21282i7uc5Y1xa21242i7wc5Y1ab41262i7.c5Y1Xr11222i7_c5Y1kb41242i7hd5Y
  1ab282C1g8cu18281g8eu11232i7td5Y1lb28231o1ig482h51g8ig282s52o1vg4u6hg28251g8bk28242o1zg4u6Zk2822
  4Qg6Z2rr1j5u.1p2eY38223Qg6O.g4u6t.112Y61_5Yh41211_5Zh412d631zc43iZ4k7db512131Yd43jZ4k7ob512x649X
  330t30Rja212x649d230t30Ril212y68CY4X1Y41Y4d1he12Wi1i1Y4HXi1A01216Co9X1o91o9f1o9i1o9Ho91224CZBX1Z
  B1ZBr2ZB1214CYBX1YB1YBr2YB1214CWBX1WB1WBr2WB1214CZ4X1Z41Z4r2Z41214CXBX1XB1XBr2XB82Z11o1qg412.621
  xc43lZ412y618Yo412r621.c43mZ412w621_b2Z7si412378Wc24dS1dSFdSCdS6dSr2dS1276Cn9X1n91n9f1n9i1n9Hn91
  284CbBX1bB1bBr2bB1217Cw9X1w91w9d1w92w9i1w9Hbj312821id43nZ412721jd43oZ4C8r75l3qp31m_1s1u_1Y50z101
  208Bnm1T_k1Knm1o11w11p4pW54pW5FpW512083vr3s1oo2r11GLIrw1O1Z3wd1Z3_b112a72o10u7YS1211g9sO12631wZ4
  30k7eX5C865j3v_12vp3t1v_1X3nq3s3nq372b871va3J0Tzy33vb4m5vX31pg3z301275Bpm1n1pm1_7oX54oX5FoX51256
  1.j24.j2i5kh5p10X1kh5b1012161pj24pj2m1fT1gTx3Xl4q2Xl412f748B4B1BR0127310Y4Wa4l3zX512811Ya412085t
  t28gk4Siq2b21w11h1uq31uq3.4uq312p75Chw2Ghw2d30w3aY5.1uf412hE7803bo41gv2G0I0E0cApl412421aa4n7jY5B
  2c771ve37dz33gX2T08gX21gX23gX2C8D4j3ex22lp41mp4s1ex212V7Q_X12vl2Mqt2B0t50M_c1p2hX51254B01_l4a1yY
  4oAul412D41wj24wj2i5uY5q2uY512B2Z4da4l3ZZ512.63Cyl11yl1cB012811ea412C4Dpk4c6cr31cr3.4cr312o171ud
  4AmW1Y1ym2o40TZg44Zg4UZg412p151pe4.50T_l44_l4U_l412241re4x6Xm44Xm4UXm41275QkRf3fa4l3dr3Tbe3o2bb5
  16e35BrU20t406kl1Mzm21508Cna21au2Ena2p21s1au21na231.6jr312b14Cpw2X101pw2r2wf4B2G61Zl27Xt13Xt1b1X
  t11Xt13Xt112E48oe24oe2a1oe2oA032k75Bal2d10n3bw2w5py4c1kg4B2371jS703Y9FY9MY91Y93Y912G41yj24yj2i5y
  Z5q2yZ512G2Z4ja4l3ba512E35Xp48_o4SWp416A5Cll1Fll1g4ll15ll1M.m212C2Z4ka4l3or31215Qt8f3la4l3qm4Tbb
  3o2dd51635Cml1Fml1g4ml15ml1M_m21222Z4na4l3Yy315E6Cyv11uw1Eyv1f4uw11yv1X7rr31511cCtr312D4803jz11j
  z1a1jz1B2C61kSAZ9FZ9MZ91Z93Z912B2Z4oa4l3qa51675Col1Fol1g4ol15ol1MWn21615Cnl1Fnl1g4nl15nl1MXn212B
  2Z4pa4l3yr31292Z4qa4l3gn41585Coa21tW2Eoa2f4tW21oa21222Z4va4l3oz31525Cxe21gu1Exe2f4gu11xe232a84Bw
  h31jx2t4jx2W70B2A61lSAa9Fa9Ma91a93a912A2Z4xa4l3va51695Cpl1Fpl1g4pl15pl1MYn21615Cql1Fql1g4ql15ql1
  MZn212A2Z4ya4l3Ys31282Z4za4l3to41212Z4.a4l3v_31262Z4_a4l3za51655Crl1Frl1g4rl15rl1Man21615Csl1Fsl
  1g4sl15sl1Mbn21262Z4Wb4l3cs31252Z4Yb4l3xX41635Ctl1Ftl1g4tl15tl1Mcn21615Cul1Ful1g4ul15ul1Mdn21242
  Z4Zb4l3gs31242Z4ab4l3.Y41635Cvl1Fvl1g4vl15vl1Men21615Cwl1Fwl1g4wl15wl1Mfn21232Z4bb4l3cZ41625Cxl1
  Fxl1g4xl15xl1Mgn216g43D0t406pi116g43D0t406qi116g43D0t406ri116g43D0t406si115Q7Bom11om11om1Eom1f4o
  m11om1X701516Brm11rm11rm1Erm1f4rm11rm11516Bsm11sm11sm1Esm1f4sm11sm11516Bqm11qm11qm1Eqm1f4qm11qm1
  12g379a6a1a61a6d1a62a6z1a6A012169e8a1e81e8d1e82e8z1e812169f8a1f81f8d1f82f8z1f812169g8a1g81g8d1g8
  2g8z1g812169h8a1h81h8d1h82h8z1h8C8s25j3js12dm3t1js1X3zs3s3zs312l42o10u7nc41211g9iZ4C8v21l3gm372v
  251Xb3m1.y33Zc4m5wX31xg312j21S_m212j23CZm4a1yn3oAtz412M2Z4oc4l3sn315h16Cpa21nm2Epa2f4nm21pa2X7bt
  31222Z4pc4l3vn31526Czv11aw1Ezv1f4aw11zv1X7ht31511cCtr312D69Y4a1Y41Y4d1rn12iq1z1kq112w349o930f2rn
  1k1012239ZBa1ZB1ZB12139YBa1YB1YB1272Z4qc4l3xn31565Cqa21Y_1Eqa2f4Y_11qa212339WBa1WB1WB12139Z4a1Z4
  1Z41242Z4rc4l3zn31212Z4sc4l3_n31212Z4tc4l3Xo312439XBa1XB1XB12I3Cbm4a1qk3oAe.41586Cra21fo2Era2f4f
  o21ra2X7rt31516C.v11ew1E.v1f4ew11.v1X7st31511cCtr31515Csa21k_1Esa2f4k_11sa21253Cdm4a1tt3oAr.4152
  6Cta21am2Eta2f4am21ta2X7wt31516C_v11Zw1E_v1f4Zw11_v1X7xt31511cCtr31515Cua21W_1Eua2f4W_11ua21253C
  fm4a1yx3oAz.41526Cva21cq2Eva2f4cq21va2X7_t31516CWw11gw1EWw1f4gw11Ww1X7Wu31511cCtr31515Cwa21n_1Ew
  a2f4n_11wa21253Chm4a1Wf4oAc_41526Cxa21_q2Exa2f4_q21xa2X7au31516CXw11lw1EXw1f4lw11Xw1X7bu31511cCt
  r31515Cya21WW2Eya2f4WW21ya21253Cjm4a1jz3oAg_412d423.r3s1mb212e22Z4Xd4l3yb512o321Zd4n7pb51222Z4bd
  4l3jc512221cd4n7ac512p449n930f2rn1k1012S39bBa1bB1bB12p449w930t30Hyi31252Z4ed4l3yc51212Z4fd4l3Xd5
  1212Z4gd4l3Zd51212Z4hd4l3bd512o421_b2Z7si41211g9sO12g411_c412_311ad412G13as312311kd412311ld41207
  1uj3Pfe4q21w11a3lb11zd1Hzd1124230s1eh41507Gan11an1Aju2p21t1ju231IvW51513Rku2g4ku2LwW51207Qhy14x9
  Ahy1r1hy1H1Lhy1b1112078mp14mp1Gmp1Cmp1c21Lmp1b1112v22Z40l3pv3C707BXX2a1XX24XX2g1me3H1w111XX272a2
  61Xc3l1wp31nf430m5lX51ih582071pt2Pye1OrW2Bye1W1ye1H1w111291v1oo21251o7zv31593Rqu2g4qu2LuX51513Rx
  W2g4xW2LvX51513Rfk4g4ek4LxX512n538.b2K0d3012H210n7_X51211o7YY512368p94Wn11l.3RB60cAaz415W86Cdd2F
  dd2D0z3dd2u2il4.1012F58Wf14Wf1GWf1CWf1x2Wf11210C9cD6j302xt31lp1s1Za4X30s3012C1o7hw31271o7kY516d3
  6Btt110Fjc2g4hc25ic2Mi7C7J5BYX2a1YX24YX2g1ne3i2YX2B2y361uh3ArX2F0MrX21rX23rX2C725BZX2a1ZX24ZX2g1
  oe3i2ZX212078du13du1Fdu1q21c1du11du1J122wC4z20n6rl4m1ZQ3012w52B0n1tn4C745B_s1a1_s14_s1g1Xl2i2_s1
  12A1o7uw312A1o7wY516A2BYn1r5vN15kE6C010Exu2y1pt1j201xu215N3Rmk4g4lk4LyY51241o7XZ51211o7cZ51211o7
  dZ512K58wR4wRGwRCwRx2wR12101210121015Q4Cmd2Fmd2g4md2u2bm415Z26Cly11ly1Ely1f4ly11ly1X70C9P4l3zt3t
  1Yy1Y5fx3z1fx31281o7sZ516O4Roc2g4mc25nc2Mm7C7I5BaX2a1aX24aX2g1pe3i2aX212d23Cyw2a1yw2oA0C725BbX2a
  1bX24bX2g1qe3i2bX2C715BcX2a1cX24cX2g1re3i2cX2C715BdX2a1dX24dX2g1se3i2dX212Q58eu13eu1Feu1w3eu11eu
  112078_t14wr31rk4X31w11r2vZ5d4km412wD5D0F0C_m1x20u5pZ512R1y1wn412l62B0n1zn4C765BWt1a1Wt14Wt1g1Yl
  2i2Wt112D1o7zZ516D2BYn1r5yN15R2RWv2g4Wv21231o7Za51211o7ca51507Cxw1Fxw13oq21pq2l21t1xw13112N58xR4
  xRGxRCxRx2xR12101210121012c11o7nr315R4C.w1F.w1g4.w1u2pm41514Cpd2Fpd2g4pd2u2sm41521z7.m415m92B0r5
  01515Cmy11my1Emy1f4my11my112Q3Cow2Y1ow2201207Dys2W1zW2e1s32s3N1c1s3K1C9W13l3Zq41bq4s1aq4B2r151ye
  3AjX2b1jX21jX23jX2B2151xe3AiX2b1iX21iX23iX2C7M5BeX2a1eX24eX2g1te3i2eX2C715BfX2a1fX24fX2g1ue3i2fX
  212T58fu13fu1Ffu1w3fu11fu112Q1y1Wo412L1o7oa512H58Zt14Zt1GZt1CZt1x2Zt112b339vm4a101ko415D5CYz11Yz
  1EYz1f4Yz11Yz112J1o7xr315H4Csd2Fsd2g4sd2u2cn41514Cud2Fud2g4ud2u2dn412d42Z40l3fn41524C_a1F_a1g4_a
  1u2kn41511z7pn41511z7wn41511z7Wo41511z7Zo41514CWx1FWx1g4Wx1u2ao41511z7bo41531z7jo41511z7no412A1o
  7mz315iA2B0r501515Cxy11xy1Exy1f4xy11xy11515Cny11ny1Eny1f4ny11ny115k64Cgu1Fgu1g4gu1X7015lA2B0r501
  515Coy11oy1Eoy1f4oy11oy1B2T51ze3AkX2b1kX21kX23kX215m12RXv2g4Xv232e74Bfl21sX2t4sX2W7012R1o7ta512O
  1o7Xs315D4Czd2Fzd2g4zd2u2oo41514CWe2FWe2g4We2u2qo41585CZz11Zz1EZz1f4Zz11Zz112F1o7so41534CrKFrKg4
  rKu2wo41514CYOFYOg4YOu2xo41511z7yo41531z7Wp41511z7Zp41531z7ap41511z7bp41531z7fp41511z7kp41511z7o
  p41511z7rp41551z7sp41511z7tp41531z7.p41511z7Yq41511z7bq41541z7cq41511z7dq41511z7eq41511z7fq41551
  z7jq41511z7oq41511z7vq41511z7.q41511z7Xr41561z7Yr41511z7Zr41531z7dr41511z7gr41531z7hr41511z7ir41
  5uB2B0r5012X11o7t_315vB2B0r501515C.y11.y1E.y1f4.y11.y11515Cpy11py1Epy1f4py11py11515Cqy11qy1Eqy1f
  4qy11qy11515C_y11_y1E_y1f4_y11_y1B2l151.e3AlX2b1lX21lX23lX212j11o7xa51535Caz11az1Eaz1f4az11az115
  15Cbz11bz1Ebz1f4bz11bz11515Ccz11cz1Ecz1f4cz11cz112m11o7bs315E4CZe2FZe2g4Ze2u2jr41514CpEFpEg4pEu2
  lr412E1o7nr41524Cf9Ff9g4f9u2or41511z7pr41541z7sr41521z7tr41511z7ur41511z7vr41511z7wr41551z7zr415
  21z7.r41511z7_r41531z7Zs41511z7cs41531z7ds41511z7es41531z7hs41521z7is41511z7js41511z7ks41511z7ls
  41551z7os41511z7ts41511z7xs41511z7.s41551z7_s41511z7Wt41531z7at41511z7dt41531z7et41511z7ft41511z
  7gt41511z7ht41551z7kt41521z7lt41511z7mt41531z7qt41511z7tt41531z7ut41511z7vt41531z7zt41511z7Yu415
  g101511z7eu41551z7fu41511z7gu41531z7ku41511z7nu41531z7ou41511z7pu41511z7qu41511z7ru41551z7uu4152
  1z7vu41511z7wu41511z7xu41511z7yu415zD2B0r5012v11o7vX415.D2B0r501515Cry11ry1Ery1f4ry11ry11515Csy1
  1sy1Esy1f4sy11sy11515CXz11Xz1EXz1f4Xz11Xz112b21o7_a512Y21o7fs31535Cdz11dz1Edz1f4dz11dz11515Cez11
  ez1Eez1f4ez11ez115B4Cf6Ff6g4f6u2zu41514CyOFyOg4yOu2_u41521z7Wv41511z7Xv41511z7Yv41511z7Zv4155015
  21z7cv41511z7dv41511z7ev41511z7fv41511z7gv41511z7hv41571z7kv41521z7lv41511z7mv41531z7qv41511z7tv
  41531z7uv41511z7vv41531z7yv41521z7zv41511z7.v41511z7_v41511z7Ww41551z7Yw41521z7Zw41511z7aw41511z
  7bw41511z7cw41511z7dw41511z7ew41571z7hw41521z7iw41511z7jw41511z7kw41511z7lw41551z7ow41521z7pw415
  11z7qw41531z7uw41511z7xw41531z7yw41511z7zw41531z7Wx41521z7Xx41511z7Yx41511z7Zx415m101551z7cx4152
  1z7dx41511z7ex41511z7fx41511z7gx41511z7hx41511z7ix415zF2B0r5012Y21o7yY415.F2B0r501515Cty11ty1Ety
  1f4ty11ty11515Cuy11uy1Euy1f4uy11uy11515Cfz11fz1Efz1f4fz11fz11515Cgz11gz1Egz1f4gz11gz11584CoCFoCg
  4oCu2jx412Z21o7is31521z7kx415301511z7lx41511z7mx41514Ccx1Fcx1g4cx1u2px41521z7qx41511z7rx41511z7s
  x41511z7tx41511z7ux41511z7vx41511z7wx41511z7xx41511z7yx41511z7zx41511z7.x41511z7_x415D1z7Yy41521
  z7Zy41511z7ay41511z7by41511z7cy41511z7dy41511z7ey41511z7fy41511z7gy415.G2B0r5012Z11o7aZ415_G2B0r
  501515Cvy11vy1Evy1f4vy11vy11554Cin1Fin1g4in1u2hy41511z7iy41511z7jy41511z7ky415aH2B0r501281o7dZ41
  5bH2B0r5015bH2B0r501515CnE1nEEnEf4nE1nE1515CfZ11fZ1EfZ1f4fZ11fZ115201515CvZ11vZ1EvZ1f4vZ11vZ1151
  5Caa11aa1Eaa1f4aa11aa116yC3D0t406om11525ChZ11hZ1EhZ1f4hZ11hZ11515CgZ11gZ1EgZ1f4gZ11gZ112kM4C0F01
  rY1f4012kM4C0F01sY1f401535CmZ11mZ1EmZ1f4mZ11mZ11515CoZ11oZ1EoZ1f4oZ11oZ11515CwZ11wZ1EwZ1f4wZ11wZ
  11515Cca11ca1Eca1f4ca11ca11515Cga11ga1Ega1f4ga11ga1B2W651Xl2A_s1b1_s11_s13_s116cD3D0t406rm116cD3
  D0t406sm116cD3D0t406qm11555CiZ11iZ1EiZ1f4iZ11iZ11515CkM1kMEkMf4kM1kM15101515ClZ11lZ1ElZ1f4lZ11lZ
  11515CjZ11jZ1EjZ1f4jZ11jZ11515CmM1mMEmMf4mM1mM12nM4C0F01rb1f401525CnZ11nZ1EnZ1f4nZ11nZ11515CpZ11
  pZ1EpZ1f4pZ11pZ11515Cha11ha1Eha1f4ha11ha11515CqE1qEEqEf4qE1qE151015101515CyZ11yZ1EyZ1f4yZ11yZ115
  15Cda11da1Eda1f4da11da11515Cea11ea1Eea1f4ea11ea11515Cia11ia1Eia1f4ia11ia1B2L51Yl2AWt1b1Wt11Wt13W
  t11525CkZ11kZ1EkZ1f4kZ11kZ11515CmE1mEEmEf4mE1mE151015101515CnM1nMEnMf4nM1nM1515CoM1oMEoMf4oM1oM1
  515CpM1pMEpMf4pM1pM1515Cpa11pa1Epa1f4pa11pa11515Cba11ba1Eba1f4ba11ba11515CrE1rEErEf4rE1rE1510151
  01515CqZ11qZ1EqZ1f4qZ11qZ11515CzZ11zZ1EzZ1f4zZ11zZ11515C.Z11.Z1E.Z1f4.Z11.Z11515Cfa11fa1Efa1f4fa
  11fa11515Cka11ka1Eka1f4ka11ka11515Cja11ja1Eja1f4ja11ja11515ClM1lMElMf4lM1lM15101515C_Z11_Z1E_Z1f
  4_Z11_Z11515CqM1qMEqMf4qM1qM1515CrM1rMErMf4rM1rM1515CsM1sMEsMf4sM1sM1515Cqa11qa1Eqa1f4qa11qa1151
  5CrZ11rZ1ErZ1f4rZ11rZ11515CsZ11sZ1EsZ1f4sZ11sZ11515CWa11Wa1EWa1f4Wa11Wa11515CuM1uMEuMf4uM1uM1510
  1515Cla11la1Ela1f4la11la11515Cma11ma1Ema1f4ma11ma11515CXa11Xa1EXa1f4Xa11Xa11515CYa11Ya1EYa1f4Ya1
  1Ya11515CtM1tMEtMf4tM1tM1515CtZ11tZ1EtZ1f4tZ11tZ11515CxZ11xZ1ExZ1f4xZ11xZ11515Cna11na1Ena1f4na11
  na11515Coa11oa1Eoa1f4oa11oa11515CZa11Za1EZa1f4Za11Za1C7eA5BxDa1xD4xDg1tTi2xDC715BsDa1sD4sDg1oTi2
  sDC715ByDa1yD4yDg1uTi2yDC715BzDa1zD4zDg1vTi2zDC715BuDa1uD4uDg1qTi2uDC715BtDa1tD4tDg1pTi2tDC715B.
  Da1.D4.Dg1wTi2.DC715B_Da1_D4_Dg1xTi2_DC715BWEa1WE4WEg1yTi2WEC715BXEa1XE4XEg1zTi2XEC715BvDa1vD4vD
  g1rTi2vDC715BwDa1wD4wDg1sTi2wDC715BYEa1YE4YEg1.Ti2YEC715BZEa1ZE4ZEg1_Ti2ZEB2t151tTAxDb1xD1xD3xDB
  2151oTAsDb1sD1sD3sDB2151uTAyDb1yD1yD3yDB2151vTAzDb1zD1zD3zDB2151qTAuDb1uD1uD3uDB2151pTAtDb1tD1tD
  3tDB2151wTA.Db1.D1.D3.DB2151xTA_Db1_D1_D3_DB2151yTAWEb1WE1WE3WEB2151zTAXEb1XE1XE3XEB2151rTAvDb1v
  D1vD3vDB2151sTAwDb1wD1wD3wDB2151.TAYEb1YE1YE3YEB2151_TAZEb1ZE1ZE3ZE15T5CW81W8EW8f4W81W81515CX81X
  8EX8f4X81X832fA6BrJ1v3c1d6h1v3c2v3w503211o1e612xD51gr3Pff4o7ym21yq2Hyq272qD51cc3l1hm31Yg4p5tb51Z
  k512hD2Dhb4dBgk4C9lC4l3wn3t1mc4Y5.c4z1.c416yC2Bzc1r5pa222YD4BdRu4xQh4qz4m1ga412dC1y1un416aC4Ror2
  g4mr25nr2Mad415qA2Rrr2g4rr2C9rC1l3.n316dC2Bzc1r5ua212kC3C_r31lb4tBvz41261y1rn412pB1y1.n41674Rur2
  g4sr25tr2Med415I5CxN1xNExNf4xN1vr21582Rwr2g4wr212X41o7un31251y1xn41545CyN1yNEyNf4yN1xr21515CzN1z
  NEzNf4zN1yr21241o7wn31562R.r2g4.r21535C.N1.NE.Nf4.N1zr21231o7yn31211o7.n31211o7Wo31211o7Yo372R51
  ec3l1xb41gg4p5gd51hl5C9K4l3Zy3t1uc4Y5qd4z1qd416N2Bzc1r5cb2C9M1l3cy316I2Bzc1r5ib272551fc3l1bc41mg
  4p5vd51om5C934l3wk3t1vc4Y5ud4z1ud4C941l3zk3C914l3hz3t1wc4Y5wd4z1wd4C921l3lz312w51o7vc412uE1v1mb2
  1221o7yc412X81o7_b51221o7_c41221o7bc51221o7Zd41221o7ic51211o7lc51211o7mc51211o7sc51211o7xc51211o
  7zc51211o7Wd51211o7Yd51211o7ad51211o7cd512B1o7pd412H2v1_y3t2_t21221o7rd41241o7ld51211o7sd51241v1
  Wj412n11y1vn41231o7se51221y1sn412k11y1_n41231o7ue51221y1yn482rF11Wu2DA06r1vf2s1Zs22Zs21kLw11p6Xf
  4EA06s1vf2s1as21as21kLw11q6Yf41506Fbp1Ciu2p21t1iu231EqW582411012C2v1ry3t201506CXs1Flu2p21t1lu231
  f6ef41513Rmu2g4mu2i6ff412068lW24Xn1Y1nb2W21w11k6tk4DA84r1wf2s1zk12zk1k8if4EA84s1wf2s1.k11.k1l8jf
  41545CjW2Fcu1g4cu1i609qf41593Rvw1g4vw1HqX512064qW27j_1Z31w11Frh51rh512mK4C010R0Kob21211y1hq21593
  Rtu2g4tu2i6tf41512Ruu2g4uu212g25Cfw210Ffw2X7bY5d401206Ccp4Gat1Iat1W21w11j6hf4DAB3r1lh3s1cx22cx2E
  AB3s1mh3s1dx21dx21655Cvr1Fvr1g4vr15vr1d601206BZw21mq2Y31d1Zw2J1v6vf412Q3o70Tyh5o2fY512068ww14tw2
  a1tw2.11w11x5mY512061it1Jbq1Scr2.11w11w5nY512061n.3j31w11y1bq5e2Yr3W1Xg415H3Cip4Fti1g4ti115sF5GW
  X21WX2AWX2g4WX2L012_23CZx21Zx2dB015E3C.o4Fhz1g4hz112E3Cjw2Gjw2X7gZ512A3Baw2g4aw2i7ag412T23Zs3s10
  12yI5S0M0h1fb1j5ju2p2sv212rE3C0Gyt3I012D2l8hi5o2rZ512D3Cvw2a1vw2p9tZ512D1m1ia4C806j3mX2111mX21mX
  2s1mX22122_K2z20W80C824j3kp42ue21ue2s1ue212068we4MZn11Zn1l21w11r2ea512B3Bix21zp4f4ix21283Qt8r7ik
  3o2ia512.E1j1012eL3C0Y10r2um412wK5C.p4f2020z10k7eg412D2S0Iau3F206l1wb36jj22yd4t1kLw11m6ng4G206l1
  xb37jj22zd4s1kLw11n6og412P31WZ4h9gy3W1Zn422C3BWg3u4eo4W7pg42212BXg3u4fo41261k1zz31211k1.z3F274l1
  yb36kj22_d4XAvg4G274l1zb37kj22We4XAwg42253Bxh31Wq4t4_p412q33Clx21lx2tB015W14GoX21oX2AoX2g4oX2126
  1k1W.31211k1X.31212e1.h360F283l1ih36hh32gp4G283l1kh37jh32hp41241k1lo41211k1Y.31211k1Z.3DAo14r1oi
  2s1fs22fs2k8bh4EAo14s1oi2s1gs21gs2l8ch415y13Rgr2g4gr2Hjb582b21o1zh415v13Rhr2g4hr2i6eh41513Rir2g4
  ir2i6fh412a22k1tb2eAfz4DAa21r1pi2EAa21s1pi21573Rnw1g4nw1Hvb515_12Rkr2g4kr21512Rlr2g4lr212h11m1Wt
  212m14Qg6Z2Xj3j5.x1p2_x112m11Szn31231m1.e412H1k1oo312N1e1ci3DAB4r1lh2s1hs22hs2k8oh4EAB4s1lh2s1is
  21is2l8ph4DAD1r1qh2EAD1s1qh21294Qwr1Z2rr1j5j.2p2_Y31291Sby31281k1ey31281e1ii3DA64r1zf2s1js22js2k
  8wh4EA64s1zf2s1ks21ks2l8xh4DA81r1.f2EA81s1.f21284Qg2Z2ij3j5rl1p2sl11281Syk31281k1ll31281e1qi3DA6
  4r1kk2s1ls22ls2k8Yi4EA64s1kk2s1ms21ms2l8Zi4DA81r1lk2EA81s1lk21284Qyt1Z2qt1j5Wa3p2Zf31281Skz31281
  k1oz31281e1wi3DA64r1aj2s1ns22ns2k8gi4EA64s1aj2s1os21os2l8hi4DA81r1bj2EA81s1bj2DA24r1Yj2s1ps22ps2
  k8ki4EA24s1Yj2s1qs21qs2l8li4DA41r1Zj2EA41s1Zj212p31v1yy312q22l8bk5o2qe512t21Qbw11222l8ik5o2te512
  D1e1Wj31206BvOLx1Imq1y11w11OZS1211o1nq11242l8jl5o2we51212l8pl5o2xe51212l8qm5o2ze51212l8wm5o2.e51
  212l8un5o2Wf51212l8.n5o2Xf51212l8Zp5o2bf51212l8ep5o2cf512u21Z4fj312C1e1hj31221Z4jj31211Z4kj31211
  Z4lj31262l8.q5o2if51212l8ar5o2kf51231Z4mj31211Z4nj31205Qer33gf4n21w11UZ115051hf4Qdu2p21t1du23115
  131if4Qeu2g4eu212m439wq2I0g4012051ss2Aij1Z31w117af412051qc36pc3d31w11Z4vO12948lm4I0r70o2pg512058
  he44ex13ex1_21w1112v64805ro2R0iAhk41214Chb11um2cBik4101211pBjk41231qBkk41205Bpi1Tpi1Kpi1o11w1112
  05Crp3Gie4o21w11t6ok412s41801214CgMY1ab2dAsk4101211rBhf41231sBuk412j22m10o9yj41205BXw2Z31d1jMJ1z
  3bh51205Cqd4a1xZ4.11w11_6yk412051uY4j31w11a3oq31dh512mR4Q0Z20j50p2012131tl2i1wz3e2ul212aN410Z70X
  1rf4b1015N410EZd2CZd2g4Zd212F4Csy31ts2YBZl45012149vY43kv21kv2YB01214903Yt11Yt12Yt112M18mh412339W
  n43ex11ex11214903.x31st2ZBdl412051Zc3j31b1vc3L1y1fl412N1Dyp312N1DZz31211Daz31231D.p31212CYp41re2
  1232CZp41se215pJ2U01012j448.b2Mzo11zo1.6012T3Bqi1Tqi1Kqi112T3Ctp3Gus2ZBll412z14QxY460I0k4sN12f52
  Cat1fB012n33Ciz1Y1iz1eA012U1k1_p312U1k1bz31212Cdp4Y1iz115h51g5012v32o1ye1B01214Q_X1OYc2h10j5_u21
  2W13Ctd4a1cr2tAql422bL3q40w40m1YQ1283SYb2I0dAtl41211rBhf41205e1nj18cb22mq1y11w1112R39zY43lv21lv2
  15X13Fad2Cad2g4ad212X13Cvy31vs2YBwl412W129me46012051hc35kv1e31w11n3zY512121ic3u8.Y512W13C_x31ut2
  ZBzl41564F0CyW2NZc2p3yW21511o1ac212L3CnX21nX2X1015I3Ced2Fed2g4ed21513Cfd2Ffd2g4fd215s52Chz1bB012
  T3Bri1Tri1Kri112T2Cwp4Gve21533Cld2Fld2g4ld212P4Cqk4Y1fn2eA0Iim412o21e1012h53Bco41gv2a1012O2Ccq4a
  1ye222O1.AzQ12C4804xr31sk4tBlm412O1Sfn31253B01Wm4a1yq215N3Fbd2Cbd2g4bd212N2Cyo41pe212L21jc3u8_Z5
  12121kc3u8Wa512M2Czo41qe212.13r1t11u1l6ji515y5380z4uf4u2012I3Bsi1Tsi1Ksi11205Sxf4C_m1c21w11p4ni5
  15I3Cfn1Ffn1g4fn11513Cde2Fde2g4de21513Cnd2Fnd2g4nd21513Cqd2Fqd2g4qd21513Cod2Fod2g4od212K4Bwe21we
  2f4we2j7012f231cn2i1_t3e2dn212131ms3i1Xu3e2ns312131qs3i1Yu3e2rs312131us3i1Zu3e2vs312R3Cxk4Y1gn2w
  AXn412p21YBnY512O3Cyr31zk4tBan41212Czr31_k415N3Fcd2Ccd2g4cd215B3Crd2Frd2g4rd21513Ctd2Ftd2g4td215
  13Cvd2Fvd2g4vd21513Cee2Fee2g4ee21513Cfe2Ffe2g4fe21513Cwd2Fwd2g4wd21513C.a1F.a1g4.a11510151015101
  5101513C_w1F_w1g4_w115101513Cxd2Fxd2g4xd21540151012L2Cdq4Y1ze2C9W74j302ne21ne2s1ne222vK2z20W8012
  L2CYq41Xq41553Cyd2Fyd2g4yd21513C.d2F.d2g4.d21513C_d2F_d2g4_d21513CqKFqKg4qK1513Cge2Fge2g4ge21513
  Che2Fhe2g4he215301513CXOFXOg4XO15101513CWb1FWb1g4Wb115401510154015101550154015101510151015601510
  15701540151015101550151015601520151015301513CYx1FYx1g4Yx11510159015101510151015101590151015A0154
  01530151015401513CXe2FXe2g4Xe21513CYe2FYe2g4Ye21513Cae2Fae2g4ae21513CgFFgFg4gF1513Cie2Fie2g4ie21
  513Cje2Fje2g4je21513Ce9Fe9g4e915101513CsKFsKg4sK1513CZOFZOg4ZO1510158015501510156015201510153015
  801510159015501510156015401510154015101550154015301510154015201510153015H01510159015101510151015
  8015101590154015301510154015201510153015F015101510151015B015701510158015401510154015101550154015
  10151015101560151015701540151015401510155015201510153015P015101590155015101560152015101530158015
  101513Cbe2Fbe2g4be21513Cce2Fce2g4ce21513ChFFhFg4hF1513C.PF.Pg4.P1513Cke2Fke2g4ke21513Cg9Fg9g4g91
  5101513Cm6Fm6g4m61510157015401510151015101560151015701540151015G01550151015601520151015301580151
  0154015101550154015101510151015601510157015J01510154015101550154015301510154015201510153015G0151
  0159015501510156015201510153015801510151015101560151015701540151015G0155015101560152015101530158
  0151015901550151015601540151015401510155015401530151015101510156015G0151015801550151015601520151
  01530158015101510151015601510157015401510151015101513Cn6Fn6g4n61513CcDFcDg4cD1513C_PF_Pg4_P15301
  51015101510156015101530151015101510151015101570151015F0154015101513Cbx1Fbx1g4bx11550151015601520
  151015301580151015401510155015401510151015101560156015301510151015101510151015801510159015401510
  151015101560151015701540151015a10155015101560152015101530158015101540151015501540151015101550151
  015601540151015101510151015101513CdDFdDg4dD1510151015101513Chn1Fhn1g4hn115101513Cdx1Fdx1g4dx1154
  01510151015101510151015101510151015101510151015E0151015F0154015101510151015101510151015101513Cdn
  1Fdn1g4dn115101510151022iB4Bag310e4du1Fdu12213Bbg3f4eu1Feu12213Bcg3f4fu1Ffu122lB3BvS1y9t4y92213B
  wS1z9t4z92213BjS1Y9t4Y92213BkS1Z9t4Z92213BlS1a9t4a912gF31Zd36ad3a9lZ412jE2Dsq2dBbz412jE2Dfm2cBcz
  41211pBjk41231qBkk412jD3CWq3GbZ4ZBdz412vH18012eE2k1_a2dAez41211rBhf41231sBuk412jD3CXe4a1ze4tAhz4
  12tC31ml2i1iY4e2nl21291Dim31291DYY41211DZY41231Djm312uD2CXq3Gzq21291k1km31291k1aY412lE3Qg6Oag4u6
  vx112tD2CYe4a1Wt222tD3BdRu4xQx5fa412sD2S.a2vAsz41211rBhf412lE1m1Xb215eE2RkW2g4kW21511o1ac212nC3C
  al4Y1om2wAuz412XE3r2_h32Wi3z1po12281.Aya412nC3CWs31mb4tBwz41281Smk312_D2Cam4a1pm212tC2Cbl4Y1qm21
  2rC2CXs31qb41212CYs31sb412L2Det2cB_z41211pBjk412M3Cdq3GeY4ZBW.41221D.f41211D_f412P2Ceq3Gtq212N3Q
  wr1Ohg4u6eX312C2Szc2vAd.41211rBhf412L1m1xb212D3Ccl4Y1go2wAj.412xM2R0g401241SYm412H2Ccm4a1Ym212d1
  31hn2i1dv3e2in212131eu3i1ev3e2fu312131iu3i1fv3e2ju312131mu3i1gv3e2nu312L2Cdl4Y1ho212D3Qg2Ong4u6n
  l11282Sib2vAq.41211rBhf412D1m1zb21253Cel4Y1bm2wAs.412D3r2ji32ki3z1qo11241Svv312D2Cem4a1en21292Cf
  l4Y1cm21293Qyt1Oug4u6gb31242Sdb2vAy.41211rBhf41243Cgl4Y1dq2wAY_41283r2qn12hq1z1jq11231SYr31282Cg
  m4a1bo212I31Yo2i1hv3e2Zo212131yv3i1iv3e2zv312131Ww3i1jv3e2Xw312131aw3i1kv3e2bw312C2Chl4Y1fq21272
  Slb2vAb_41211rBhf41211Sny31292Cim4a1Xt21222Sqb2vAf_41211rBhf41211Sd.31242Ckm4a1eq212ZI3Qsr33_g4f
  5p112XI1s5jb512XI21at2k5dh412XF1YBXz412oH31dZ4h8_s31_j51205Mqh4Aod1k21w11PuP12sG1Qe_112Wa1290b10
  1221Qbw112cI28Yj3vAvq512bH18Wc212lI1Z4012C3Qtr33Yh4f5g21281M_j412aH38Zo44mLY1mL1204Qxo1q21w11l1X
  11211t6Y11211t6cW51211t6a112hH2Q0c5fM15k23Rfu2N0p3fu21512RuW2g4uW21243Qr5z50u1cq312041rZ43dh4g31
  w1112uI1901211s5ev31213Cod43ov2d501283BrY4r50IWP1263Qkb2i5b1f201582Rnu2g4nu21512Rou2g4ou21512RvW
  2g4vW21512RwW2g4wW21263BZPd60y1xW212F2Bzc1r5zW212G1W6eP1213Bzm2r50m3gP12E31Wk330n3Xk312oI1j1012e
  32o10u6cX21243Bom1n1om1q701592Rdk4g4ck412J21zZ43kh412I1s5_v312I3Cpv21pv2201253Bxp3n10_4yX51552Rs
  u2g4su21512RxW2g4xW21242Cse21se21212Cre21re212F1W6WY512zG3S0Cp2p8hl412G1m9tP1243Cew210Few212a12Q
  uW4z5rN1251W6xP12kI18012O2Bsr1Z8g712a11l8_h512Q1k8XY212Q1W6ZY21211W6cY272K31tb330j1xq21273Csw2Y1
  02sw212P2Q_X1m7Yd11271l8rw312R1g8kY212kI1o101213e108cq32nq112T2Brm1n1rm11212Bsm1n1sm11212Bqm1n1q
  m112D1k8nY215Q2Rjk4g4ik412jJ21ke4o401522Rwu2g4wu21242B.X1Z8tN1522Ryu2g4yu21512Rzu2g4zu212U2Cqv21
  qv21522Rok4g4nk41512Rvv2g4vv212R1W6YZ512qI1801221W6aZ51222CXl11Xl112E1k8pY212Q1W6rY212Z12Cve2Gve
  21212Ciw2Giw21212Cgw2Ggw21252BzX1Z8gj212Z11k8l712g12e1_m1p8pZ512T1l8gi512v121lt3q3mt312121ot3q3p
  t312121qt3q3rt312B1W6dZ21212Btt1r5n712b12Cuw2a1uw21212Cww2a1ww21212Cye2a1ye212B2Btr1Z8xQ12A1l8lx
  312821wj3q3xj312E1k8o712L1k8iZ212N2Cpe21pe21212Cmv21mv212Y11k8xN12C2BYn1r5zN1221k8.N15W12Rwk4g4v
  k41252Csv21sv21212Crv21rv21212Cqe21qe21542Rf1g4f112Y11W6Ya51232CYl11Yl11221W6aa51222CZl11Zl112F1
  k8jZ212P1W6kZ21211W6lZ21231k8mZ212q3380Mqq21qq212b12Ckw2Gkw212b11k8mj21211k8oj212Q2Qt8r7hk312cJ1
  j1012121ks3q3ls312121os3q3ps312121ss3q3ts312g11x9ja512m22Clw2Y1lw21212Cnw2Y1nw212Y11l8.i512e11W6
  q712c12Cxw2a1xw212c11k8iR12L2Ccw21cw212b11k8r71231k8pR1232Cnv21nv212Z11W6WO12Z11k8XO1232Cuv21uv2
  1212Ctv21tv215X12Rf4g4f41222Cbl11bl112W11W6na51222Cal11al11221W6pa512V1W6.Z212V1k8_Z212V2Uoq21pq
  212T1k8tj21251W6YO1233Unm4109xm412V1l8gl312P2Cmw2Y1mw21212Cze2Y1ze212B2Ckx21kx212L1k8zR1222Cdl11
  dl11281W6sa51222Ccl11cl11221W6ua51211W6ZO1232Cel11el11221W6wa51222Cfl11fl11221W6ya51222Cgl11gl11
  221W6.a51222Chl11hl11221W6Wb51222Cil11il11221W6Xb51222Cjl11jl11212CWl11Wl115X12RqFg4qF1512RsFg4s
  F1512RrFg4rF12P2QkRr7ce312T1k8to11282Btn1r5vo112h11W6qZ412g42B.m2b9sZ412v121pj3q3qj312f81j1012_3
  2Qg2m7Yp11592Rgb4g4fb41262BrUr5zm21261m9aa412f11k8na212B1k8yp112B1W6_p11211W6aq11282Qe_1m7_q2129
  1g8lq112e41m1Xb212e41m1rm31271k8oq115C2Rkb4g4jb41512Rqr2g4qr212z11k8na412E1W6.m21211W6_m21261k8q
  q112C1W6sq112G1k8sa212M21Wo3q3Xo312121ao3q3bo312121co3q3do31251W6uq112_11W6va212B1k8wa412421rj3q
  3sj31281k8wa212B1k8yq11241k8Yb41211k8Zb412F1W6Wn21211W6Xn21251k8zq112B1W6.q11211W6_q11231k8Wr112
  B21go3q3ho312121io3q3jo312121ko3q3lo312121mo3q3no312H1W6za212C1k8eb412G1k8.a21221k8jb41211k8lb41
  2E1W6Yn21211W6Zn212D1W6Yr112D1k8Zr11251k8qb41241W6an21211W6bn21211W6cn21211W6dn21211W6en21211W6f
  n21211W6gn212x21l8cb312G1k8Zb212p11m1xb212p11m1Wc41231k8hb212N21nv3q3ov312121qv3q3rv312121sv3q3t
  v312P1W6jb212221yj3q3zj31261k8kb212f91j1012121cu3q3du312121gu3q3hu312121ku3q3lu31271W6mb21261k8n
  b212F1m1zb212F1m1hc412521_k3q3Wl312121Yl3q3Zl312121al3q3bl312121bk3q3ck312121dl3q3el312121fl3q3g
  l312121hl3q3il312121jl3q3kl312121hy3q3iy312121jy3q3ky312121ly3q3my312121Zk3q3ak312e91j1012121wv3
  q3xv312121.v3q3_v312121Yw3q3Zw312121dk3q3ek312121.j3q3_j312l81t6n11211t6o11211t6q112v71s5jb512f8
  1c6r112y41l8ek51211l8Yd412.621Yf4Z7nz41221l8hk51211l8dd412k31W6fd41221l8tk51221W6id41221l8ml5121
  1l8ol51211l8.l51211l8tm51211l8vm51211l8bn51211l8xn51211l8zn51211l8fo512j821yc43bj412121Wd43dj412
  31l8ap51211l8dp51211l8hp512P1t6f21211t6h212P1c6i21241l8_q51211l8re41211l8Zr51211l8te41211l8br512
  71t6s2HB03k3kL4oc3s1112c52Ux9A01212U0Rah412121h.3u1012111jf412120eq410121200y1mz312128Xb4q101212
  802bh412511Wz3121210w1kf412129gh4o10121290k3tm212u91C012718nc412611lf4121210Rsl21212S04mf41212BX
  w2L012D1y1ob21211y1hq21211y1vz31212y10w1tm212918dd4I2O2n3sp31012A11k.312111ss212111pt212111Xz312
  R1v1jh412718of412311pf4121210Cts212211_Z412111Yz312518mm412211lh41251Dst212P1FZn412S19je412411pq
  312111qq312718pd4121280W1tu31212Rao2D012T1SYk31212S0a3oh41212q3wt3C01212.1sd4s1012811lv3121210j4
  st31212o1sh4y2012V1y1il412Z11Bqn412H1Dcs212A1Svl212711vj312111th4121210j1wl21251Der212.91e101241
  1ez312O1F_m412211ba41221FYn41212F0a4nh412R19ne41231Fan41212F0Boe41221FXn412R1e1yh312R1Rjo212E1k1
  xz31212j1js31012Q1.1wd41231k1fn212O1y1om412E11kt312111nt31231y1jl412A1e1qm41261k1xl21212k10m3hv2
  12E1Fbn41241e1rl212U1SYv21211SZv21211Sfr212H1Rko21281k1yz312B1y1sm41211y1tm41291Fcn41261S.d41211
  Sav21211Sbs21211Srs21211Syf412E1e1wm412A1k1_z31211k1ws31211k1xs31211k1ys31211k1zs31211k1.s31211k
  1_s31211k1Wt31211k1Xt31211k1Yt31211k1Zt312J1y1ym412E1Sll41211Snl41211Sbv21211Szs21261k1at31211k1
  bt31211k1ct31211k1dt31211k1et31211k1ft31211k1gt31211k1ht31211k1it31211k1jt312y31Us212G1y1a_312r2
  18Wc212q31t3em212F1Scv21241y1l_31211y1w_31211y1ZW412l31s3em212718ue4I2l31n3gn312w111a.312111b.31
  291Sol412y21q3vn312311xn312x21k4hn312A1y1pl41251S_m212411ur312L1k1ol212t21Dpr212t21m1Xb21231k1om
  21271y1Xi312611_n312111Zo31231y1ql41251k1pl212e21.4gl21231y1Zi31211y1ai31241k1qo31211k1ro31211k1
  so31211k1to31211k1uo31211k1vo31211k1wo31211k1xo31211k1yo31211k1zo312B1y1bi31221k1_o31211k1Wp3121
  1k1Xp31211k1Yp31211k1Zp31211k1ap31211k1bp31211k1cp31211k1dp31211k1ep312Z11Sql2I2i11n3rq312T11Wk4
  12111Xk41241Stj312i11q3Yy312311ay312i11k4xx312J1y1rl412e11m1xb212B1k1go21231y1di312611mv312111pv
  31231y1sl412d11.4hl21221y1fi31211y1gi31281k1ou31211k1pu31211k1qu31211k1ru31211k1su31211k1uu31211
  k1vu31211k1wu31211k1xu31211k1yu312B1y1hi31221k1zu31211k1.u31211k1_u31211k1Wv31211k1Xv31211k1Yv31
  211k1Zv31211k1av31211k1bv31211k1cv312Z11Scu2I2d11n3jq312S11wm312111xm31241SYk412d11q3vk312311xk3
  12d11k4nk312J1y1tl412d11m1zb212B1k1bm21231y1li312611.k312111Xl31231y1ul412d11.4jl21221y1ni31211y
  1oi31281k1ml31211k1nl31211k1ol31211k1pl31211k1ql31211k1rl31211k1sl31211k1tl31211k1ul31211k1vl312
  B1y1pi31221k1xl31211k1yl31211k1zl31211k1.l31211k1_l31211k1Wm31211k1Xm31211k1Ym31211k1Zm31211k1am
  3I2c11n3fr312R11zm312111.m312b11q3gz312211iz312b11k4wy312H1y1vl41281k1dq21221y1ri312511kc412111l
  c41231y1wl412a11.4kl21221y1ti31211y1ui31281k1cw31211k1dw31211k1ew31211k1fw31211k1gw31211k1hw3121
  1k1iw31211k1jw31211k1kw31211k1lw312B1y1vi31221k1mw31211k1nw31211k1ow31211k1pw31211k1qw31211k1rw3
  1211k1sw31211k1tw31211k1uw31211k1vw312Q11gY412111hY412111oy312111py3HBe91o3wc312211jY412111Wg412
  111rz312111Xg412111sz312111Zg412111tz312z71o1_h412O1y1xl412311uz31221y1xi31211y1yl412f11.4il212v
  21Szt21231y1zi31211y1.i31231SXu21211SYu21231y1_i31221SZu212W61UiD1231y1kY412v518.b21221y1lY41211
  y1nY41211y1pY412418qf4HBS1o3yc312L1o1ci41291UmA1251y1eZ41211y1fZ41211y1gZ41211y1hZ412818ji4HB81o
  3_c31281o1li41281UjD1251y1pZ41211y1sZ41211y1vZ41211y1.Z412818ej4HB81o3Wd31281o1ui41281UfE1251y1c
  a41211y1ga41211y1ha41211y1ma412818ij41271o1zi41271UeC12XA1v1.i41251y1sX412518xe412vA1A_i41231y1X
  Y41211y1bY41211y1cY412518ye412q111at21291v1Xj412318Wh412118Zj312W91.1Ze412511kZ41281y1zl412r81Rp
  o21221y1aj31211y1.l412k81e1cj312y11.4ll21251Rqo21241y1dj31211y1ej31211y1gj312P1UhE1221y1ra412F18
  rh41221y1ta41211y1ua41211y1wa412418mj412X21Shu21211Sru21211Svu21211S.u212518lj412C1UeE1281y1.Y41
  2318zf41221y1_Y41211y1YZ41211y1ZZ412418Zh412V1.1ae412O1Rso21211Rwo212418Yj41241.1be412218hj41221
  .1ce412cC1x1Xh412c111Wu212111md41281Rdo21251.1de412311mY412111Zj412111nd41251Reo21251.1ee4k3A94J
  0W40Wl50Wi2BT160m11Wz30_tp101X101Y101Z101a101b101c101d101e101f101g101h101i101j101k101l101m101n18
  1w101x101y101z101.101_101W20CX2P502P5W12.k52.h2DR342k13.y32ztp12_dWW11x201y201z201.201W301x301y3
  01z301.30Da10TP502P5W12.k52.h2DR342k13.y32ztp12_dWW14a10TP502P9_3W12.k52.h2DR342k13.y32ztp12_dWW
  1Ca10TP50W1W12.k52.h2DR342k13.y32ztp12_dWW11X3P509212J2u12Yz_X12A030509212O2p12Yz_X1E086H2022272
  l32.k52.h2DR342k13.y32ztp12_dWW1D086H24362l32.k52.h2DR342k13.y32ztp12_dWW1D086H2D2g13Y22.k52.h2D
  R342k13.y32ztp12_dWW1B9022J0W40Wl50Wi2BT160m11Wz30_tp101A0Ea10C98P502P5W12.k52.h2DR342k13.y32ztp
  12_dWW11m192Y20W102b20W102l20W102u20W101_201k3060C2X1962q1212cy_X12D0o101m171r301u305a10C98P502P
  Da10C98P50W1W12.k52.h2DR342k13.y32ztp12_dWW12X2P7P30X1222u._X140Y12SR5Ray_X150X12222232l._X120b1
  3t._X140b131232l._X14092Z12g13Yz_X13092m23Xz_X12092q__X11m112h10203m1985R52A0.W8120f12q._X140921
  2vW83r.tX16a1090398P502P40X122222q._X1609212J222WW83r.tX13A030xW8130b1312q._X1509212N3__73r.tX13
  0f1232l._X150Y1252LR5Ray_X13Z10UP7P709212K2SR5Riz73r.tX11X301Y301Z301a301b301c301d301f301h301i30
  1j301l301m301o301p301q301s301t301v301e301g301n30y80KZ10K11L02M03N04O05P06Q07R08S09T0AU0BV0CW10DX
  10EY10FZ10Ga10Hb10Ic10Jd10Ke10Lf10Mg10Nh10Oi10Pj10Qk10Rl10Sm10Tn10Uo10Vp10W1q10X1r10Y1s100KW1011
  1t102M03N0Z1j106u107R08S09T0Av10Bw10CW10Dx10EY10Fy10Ga10Hb10Ic10Jd10Kz10L.10M_10NW20Oi10Qk10RX20
  Sm10Uo10VY20W1Z20X1r10Y1s1000Y10211L02M03a20Z1j105P06Q07R08S09T0AU0Bb20CW10Dc20EY10Fd20Ga10Hb10I
  c10Jd10Ke20Lf10Mg10Nh10Oi10Qk10RX20Sm10Tn10Uo10Vp10W1q10X1r10Y1s1000R0311t102M03a20Z1j106u107R08
  S09T0Av10Bw10CW10Dx10EY10Fy10Ga10Hb10Kz10NW20Oi10Qk10RX20Sm10Uo10Vp10W1f20Y1s1000Y10411L02M03a20
  Z1j105P06Q07R08S09T0AU0Bb20CW10Dc20EY10Fd20Ga10Hb10Ic10Jd10Ke20Lf10Mg10Nh10Oi10Qk10RX20Sm10Tn10U
  o10VY20W1g20X1r10Y1s100KY10511L02M03a20Z1j105h206i207R08S09T0Aj20Bw10CW10Dx10Ek20Fy10Ga10Hb10Ic1
  0Jd10Kl20Lm20Mn20No20Oi10Qk10RX20Sm10Tp20Uo10VY20W1q20X1r10Y1s1000R0612M03a20Z1j106u107R08S0Av10
  Br20CW10Ds20Et20Fu20Ga10Hb10Jd10Kz10M_10NW20Oi10Qk10RX20Sm10Uo10Vp10W1Z20X1r1000M0712M0a1v206u10
  7R08S0Av10Br20Ds20Ew20Fx20Ga10Hb10Kz10M_10NW20Qk10RX20Uo10Vp10W1f20b1j1000W10811t102M03a20Z1j106
  u107R08S09T0Av10Bw10CW10Dx10EY10Fy10Ga10Hb10Ic10Jd10Kz10L.10M_10Ny20Oi10Qk10RX20Sm10Uo10VY20W1Z2
  0X1r10Y1s1000M0912M03a20Z1j107R08S0Av10Br20CW10Ds20Et20Fu20Ga10Hb10Jd10Kz10Oi10Qk10RX20VY20W1z20
  X1r1000S0.211L0c1j105h206i208S09T0Aj20Bw10CW10Dx10E_20Fy10Ic10Jd10Kl20LW30Mn20NX30Qk10RX20Sm10Tp
  20Uo10d1Y30VY20W1Z30X1r1000J0B1a1v206u108S0Ba30CW10Db30E_20Fx20Ic10Kz10Lc30M_10Nd30Qk10RX20VY20W
  1f20b1j100080e314f306g30Fu20Kh30Ri30Uo10VY20004e1j30f1k312M0Ri30004g1l30f1m317R0Ri30005h1n300o30
  2M06p30Fq30005i1r300s306t307R0Fu30006j1v30k1w30l1x31Fu20Qy30Rz300020x31FZ101000KZ10K11L02M03N04O
  05P06Q07R08S09T0AU0BV0CW10DX10EY10Fd20Ga10Hb10Ic10Jd10Ke10Lf10Mg10Nh10Oi10Pj10Qk10RX20Sm10Tn10Uo
  10Vp10W1q10X1r10Y1s10M01L.30s1000031_30Z1W40RX40203m1j10RX20VY40y201LZ40s2026a40Lb40t100R00T0050
  2Ac40Ld40v203Be40Lf40Ng40D00w203Dh40Li40Nj40p102Ek40n1l40o300r309Em40Gn40Hb10o1o40p1p40q1q40r1r4
  0s1s40t1t40r305Em40n1b10p1p40s1u40t1t40f100S00.203Fv40Kw40Lx40902Ly40Mz40n102L.40M_40a402EW50NX5
  0_300202m1j10RX20k100005u1Y50v1Z50w1a50x1b50y1c50l100t201Ld50m300C01W1e50u203Lf50W1g50X1h50E00d3
  00M00s200500v201Be40w201Dh40x202Ai50Fj50.200901Mz40n100a400001x1k50C00u201X1h50002Z1W40RX40v202B
  e40Lf40w202Dh40Li40x203Ai50Fj50Ll50.202Kw40Lx40u200u202Lf50W1g50y200s2016m50501An50p101n1l40.202
  Ko50Lx40901Ly40n102L.40Mp50a402EW50Nq50t200u202W1r50X1h50v200w200002Ek40n1l40002Ai50Fj50204z1v20
  Ds50RX20b1j10001n1l40003Ai50Fj50Mt50a401EW50001X1h5000R0.211L0Z1j105h206i208S09T0Aj20Bw10CW10Dx1
  0E_20Fy10Ic10Jd10Kl20LW30Mn20NX30Qk10RX20Sm10Tp20Uo10VY20W1Z30X1r10p100001Ly40002EW50Nq50q303.1j
  10RX20d1Y30u201W1r50001Ng40001Nj40900001Iu500070e314f306g30Fu20Kh30Uo10VY20001VY400023v50_1w50.2
  01Fv40005u1Y50v1Z50w1a50x1x50y1c50i301e1j300030k312M0Fu20j301g1l300030m317R0Fu20u102W2n306y50u10
  4h1n300o306p30Fq30003X2n303v50_1w50u104Y2n306y50Az50F.50v102Z2r306_50v104i1r300s306t30Fu30003X2r
  303v50_1w50v104a2r306_50AW60FX60p303b2v30Qy30Rz30p306j1v30k1w30l1x31Fu20Qy30Rz300020x31Fu20003c2
  y30RY60Sv30001d2v30Y301LZ60301d2_30s302m1W40RX40001x1a60n300b200n201Lb60d200z201Lc60Z200g300X200
  001Id60h300Y200001Ie60001Ef60r303n1l40p1p40s1w20r302n1l40p1p40r303n1n40s1s40t1t40001e2g60002f2h6
  0n1i60001w1j60001g2k60001n1n40r300001n1b10q100r201Ll60_200W301Lm60z100a300p202Ln60Mo60.100b301Lp
  60k300k301h2Y50k301w1q60002g2r60Vs60001g2t60c200a500e200o201Lu60b500002i2i50Av60l301j2j50002g2w6
  0Vx60a200n200z200r200p201My60b300o200o101k2s50r100y400002n1z60r1.60002J_60_1W70002g2X70VY70001X2
  n30u103l2z506Z70Aa70u103m2.50n2n306b70001X2r30v103o2W606c70Ad70v103p2X60n2r306e70001d2y30Z300002
  g2f70Vg70j200i200x400w400m200r303e2g60s1o40t1t40001n1i60r302n1i60s1h60r303w1j60s1q40t1t40r303g2k
  60s1r40t1t40h200X300f200q201Lh70l200k301w1Y50001g2i70001g2j70001g2Y50k200003q2i50Av60Fk70001g2l7
  0001g2m70q200002n1n70J_60001g2o70m100002J_60_1p70001g2c50001g2q70003r2z50s2i50Aa70u104Y2z506Z70A
  a70Fn30l303t2.50n2n30s2j50003r2W60s2i50Ad70v104a2W606c70Ad70Fr30l303t2X60n2r30s2j50001g2r70001g2
  s70g200001g2t70002g2j70X1u70l300001g2v70002g2m70X1j10002n1w70J_60002g2x70J_60002J_60_1y70002g2q7
  0X1Y50001g2z70002g2s70X1W40001g2u70k302m1j10RX20001g2j10002n1.70J_60002g2_70J_60002J_60_1W80001g
  2W40002n1X80J_60002g2Y80J_60002J_60_1Z80001J_60002g2a80J_60002J_60_1b80002g2X80J_60002J_60_1c800
  02J_60_1d80002J_60_1e80002J_60_1f80002J_60_1g80002J_60_1h80002J_60_1i80002J_60_1j80002J_60_1k800
  02J_60_1l80002J_60_1m80002J_60_1n80002J_60_1o80002J_60_1p80002J_60_1q80002J_60_1r80002J_60_1s800
  02J_60_1t80002J_60_1u80002J_60_1v80002J_60_1w80002J_60_1x80002J_60_1X80_A00M001u210v220w230x240y
  250z260.270_280W390X3A0Y3B0t1C0Z3D0a3E0b3F0c3G0d3H0x1I0e3J0f3K0g3L0005v2M0w2N0t1O0c3P0f3Q0002Z3R
  0b3S0003u2T0X3U0Z3V0002y2W10Z3X10003X3Y10t1Z10y1a10005u2b10_2c10Z3d10b3e10x1f10002y2g10X3h10004z
  2i10Y3j10t1k10c3l10001y2m10001y2n10002y2o10Z3p10003u2q10y2r10x1s10003v2t10z2u10e3v10002b3w10x1x1
  0001y2y10006u2z10y2.10d3_10x1W20f3X20g3Y20004u2Z20h3a20b3b20g3c20002t1d20c3e20002u2f20Z3g20002h3
  h20_2i20001_2j20001c3k20001w2l20001g3m20A02c3n20g3o20001u2p20001Z3q20001y2r20002c3s20d3t20001u2u
  20001t1v20004v2w20w2x20z2y20X3z20Y100001c3.20001x1_20002a3W30d3X30001X3Y30001t1Z30001b3a30001Z3b
  30001t1c30001d3d30001Z3e30O00001a3f30V03z2g30c3h30d3i30_400001g3j30001d3k30001d3l30001x2m30001Y3
  n30002e3o30f3p30002X3q30Y3r30001i3s30W100001y2t30002_2u30Z3v30001v2w30003u2x30j3y30d3z30001d3.30
  001d3_30002u2W40b3X40001a3Y40001_2Z40001Y3a40001b3b40002_2c40b3d40002x1e40g3f40001a3g40003x2h40_
  2i40W3j40001_2k40001b3l40001_2m40001_2n40001d3o40001y2p40001d3q40001y2r40h400001y2s40001t1t40001
  _2u40001X3v40001u2w40001y2x40001w2y40001c3z40002c3.40d3_40001x1W50001X3X50001u2Y50001y2Z50001y2a
  50001Y3b50001Z3c50001y2d50001c3e50001u2f50Q00001Y3g50001w2h50Y400001v2i50002X3j50Z3k50001y2l5000
  1d3m50001y2n50001Z3o50K00001u2p50001x1q50001y2r50001y2s50_100001X3t50001v2u50001y2v50001b3w50001
  e3x50001d3y50001X3z50001x2.50001x1_50001x1W60001_2X60Z400001d3Y60001_2Z60001y2a60001d3b60001v2c6
  0001.2d60001c3e60001Z3f60001y2g60Z100001y2h60001y2i60001j3j60001t1k60001t1l60J00001x2m60001X3n60
  001h3o60001X3p60001b3q60001c3r60001b3s60001w2t60001d3u60001y2v60001W3w60g100001h3x60001c3y60001d
  3z60001_2.60001.2_60001u2W70001x1X70001d3Y70N00v400001b3Z70001t1a70001y2b70001X3c70G00001d3d7000
  1u2e70001y2f70001b3g70001b3h70001u2i70001b3j70001z2k70u300001X3l70001c3m70001b3n70z300001y2o7000
  1w2p70001b3q70001u2r70001y2s70001_2t70001Z3u70001_2v70001b3w70001c3x70001_2y70001t1z70001b3.7000
  1w2_70001Z3W80001y2X80v300001f3Y80x300701Z3Z80001z2a80001x1b80001Z3c80001.2d80e300001y2e80H00001
  x2f80001u2g80001c3h80001d3i80x100U00001u2j80a100h100w100L00001t1k80001.2l80001b3m80001X3n80001y2
  o80001d3p80001x2q80y300001X3r80001_2s80001X3t80001Y3u80001d3v80.400001t1w80001z2x80W500001y2y800
  01a3z80Z500001b3.80001d3_80001_2W90001d3X90001w2Y90001w2Z90001t1a90001b3b90001t1c90001z2d90001w2
  e90001.2f90w300001h3g90001X3h90001d3i90e100001z2j90001_2k90001y2l90001f3m90W200X100j100001w2n900
  01Z3o90I01c3p90001t1q90001x1r90001y2s90001y2t90001d3u90f300400001c3v90001g3w90001Z3x90t400001y2y
  90800001w2z90001u2.90g400001u2_90i400m400001x2WA0001y2XA0001d3YA0c400001X3ZA0001y2aA0d100001_2bA
  0W400k400P00l400t300F00001t1cA0X500001t1dA0001d3eA0001b3fA0z400j400001y2gA0001b3hA0b400600r400i1
  00001t1iA0001t1jA0001y2kA0001w2lA0001w2mA0001y2nA0d400001y2oA0001g3pA0q400001y2qA0001y2rA0Y500n4
  00o400b100c100y100001d3sA0001Z3tA0001y2uA0001y2vA0f400001x2wA0X400001c3xA0001x2yA0001c3zA0001z2.
  A0u400B00e400p400.300s400c300"

def tsx : Packed := ⟨"tsx", tsxSymbols, tsxRoles, tsxTables⟩

end SymbolIndex.Grammar
