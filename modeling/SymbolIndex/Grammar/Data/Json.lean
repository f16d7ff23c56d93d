import SymbolIndex.Grammar.Packed

/-!
# The grammar of JSON

Its symbols, its roles and its packed tables.
-/
namespace SymbolIndex.Grammar

def jsonSymbols : List GrammarSymbol := [
  .hidden "end", .anonymous "\x7b", .anonymous ",", .anonymous "\x7d", .anonymous ":",
  .anonymous "[", .anonymous "]", .anonymous "\"", .named "string_content",
  .named "escape_sequence", .named "number", .named "true", .named "false", .named "null",
  .named "comment", .named "document", .hidden "_value", .named "object", .named "pair",
  .named "array", .named "string", .hidden "_string_content", .hidden "document_repeat1",
  .hidden "object_repeat1", .hidden "array_repeat1"]

def jsonRoles : List String := [
  "key", "value"]

def jsonTables : String := "
  F0P01020002000120i111111070014112K200112K300112G100112H200112H300112H400112J200112J300112J400110
  H0110G011040122M200071011112N200112O200110C0110I0110J0110M0112I301122L2000J10105001060012L200110
  A0110B0110D0110E0110F01108011090112F000112F100112M200122M2000G1122M2000H1122M200041122N2000M1122
  O2000C1113W1000E0313131313131313231313131311000F0a11E4F2D32121212111U121727172200140b1F013630018
  0c11d14f12e13G1G1G1G0024006Z1AL60000D04141414141414143414141411001C051515151515151535151515000C0
  61616162616163616161611001B0717171727171737171717001B0A1A1A1A2A1A1A3A1A1A1A001B08181818281818381
  81818007260AS0011GT003B0B1B1B1B2B1B1B3B1B1B1B001B0919191929191939191919001B0C1C1C1C2C1C1C3C1C1C1
  C00053Y14D714K2V10057Q1L1L5H7I10147R1M1MCJ10137S1P1P00042N1TB19N00042K4V81AO006230FR00323W1KP003
  26X1IQ00222g11I00222h14J00222IL000122O1O00322JM000020i1E100024UA1W1294J01Y101i101j101l101m101n18
  1w101x201y201z201c301k301q301x301z304092M2u12Yz_X11A01g101k102b20W101m198Y10D0j1060408040211X301
  r301o3020f12q._X12092q__X11i3030f1232l._X11p301b30e103G0311402503604705806907A08B09C0AD0BE0CF0DG
  0EH0FI0004GJ0HK11409C010003F0311402503604705806907A08B0AD0BE0CF0DG0EH0FI0800300002580690002IL04M
  0B02JN0KO0B03JN0L90KO0500600001MP0700001NQ0001OR0001PS0200400901GJ00030K1140470002QL0IT0F01RM0B0
  2LN0KO00023U0LV0A00001SW10001SX10001OY10003TL0IT04Z10001LV0B01LV0001Ua10001Sb10001Vc10F00001Vd10
  E00C00D000"

def json : Packed := ⟨"json", jsonSymbols, jsonRoles, jsonTables⟩

end SymbolIndex.Grammar
