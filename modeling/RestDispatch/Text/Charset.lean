import RestDispatch.Text.CodePage
import RestDispatch.Text.Unicode

set_option autoImplicit false

/-!
Encodings of texts by their names. Case, and marks between letters, make no difference to a name.
-/
namespace RestDispatch.Text

-- An encoding of texts. One of units of two or four bytes without an order starts with a mark that says the order.
-- Of eastern encodings only the basic characters are known.
inductive Charset where
  | utf8 (marked : Bool)
  | utf16 (order : Option ByteOrder)
  | utf32 (order : Option ByteOrder)
  | ascii
  | latin
  | page (name : String)
  | eastern (name : String)
  | escaped (raw : Bool)
deriving DecidableEq, Repr

def charsetAliases : List (String × List String) :=
  [("cp037", ["037", "csibm037", "ebcdic_cp_ca", "ebcdic_cp_nl", "ebcdic_cp_us", "ebcdic_cp_wt", "ibm037",
     "ibm039"]), ("cp437", ["437", "cspc8codepage437", "ibm437"]),
   ("cp500", ["500", "csibm500", "ebcdic_cp_be", "ebcdic_cp_ch", "ibm500"]),
   ("cp850", ["850", "cspc850multilingual", "ibm850"]), ("cp852", ["852", "cspcp852", "ibm852"]),
   ("cp855", ["855", "csibm855", "ibm855"]), ("cp858", ["858", "csibm858", "ibm858"]),
   ("cp866", ["866", "csibm866", "ibm866"]), ("cp1140", ["1140", "ibm1140"]),
   ("cp1250", ["1250", "windows_1250"]), ("cp1251", ["1251", "windows_1251"]),
   ("cp1252", ["1252", "windows_1252"]), ("cp1253", ["1253", "windows_1253"]),
   ("cp1254", ["1254", "windows_1254"]), ("cp1255", ["1255", "windows_1255"]),
   ("cp1256", ["1256", "windows_1256"]), ("cp1257", ["1257", "windows_1257"]),
   ("cp1258", ["1258", "windows_1258"]),
   ("iso8859_2", ["csisolatin2", "iso_8859_2", "iso_8859_2_1987", "iso_ir_101", "l2", "latin2"]),
   ("iso8859_3", ["csisolatin3", "iso_8859_3", "iso_8859_3_1988", "iso_ir_109", "l3", "latin3"]),
   ("iso8859_4", ["csisolatin4", "iso_8859_4", "iso_8859_4_1988", "iso_ir_110", "l4", "latin4"]),
   ("iso8859_5", ["csisolatincyrillic", "cyrillic", "iso_8859_5", "iso_8859_5_1988", "iso_ir_144"]),
   ("iso8859_6", ["arabic", "asmo_708", "csisolatinarabic", "ecma_114", "iso_8859_6", "iso_8859_6_1987",
     "iso_ir_127"]),
   ("iso8859_7", ["csisolatingreek", "ecma_118", "elot_928", "greek", "greek8", "iso_8859_7",
     "iso_8859_7_1987", "iso_ir_126"]),
   ("iso8859_8", ["csisolatinhebrew", "hebrew", "iso_8859_8", "iso_8859_8_1988", "iso_ir_138"]),
   ("iso8859_9", ["csisolatin5", "iso_8859_9", "iso_8859_9_1989", "iso_ir_148", "l5", "latin5"]),
   ("iso8859_10", ["csisolatin6", "iso_8859_10", "iso_8859_10_1992", "iso_ir_157", "l6", "latin6"]),
   ("iso8859_11", ["thai", "iso_8859_11", "iso_8859_11_2001"]),
   ("iso8859_13", ["iso_8859_13", "l7", "latin7"]),
   ("iso8859_14", ["iso_8859_14", "iso_8859_14_1998", "iso_celtic", "iso_ir_199", "l8", "latin8"]),
   ("iso8859_15", ["iso_8859_15", "l9", "latin9"]),
   ("iso8859_16", ["iso_8859_16", "iso_8859_16_2001", "iso_ir_226", "l10", "latin10"]),
   ("koi8_r", ["cskoi8r"]), ("mac_roman", ["macintosh", "macroman"]), ("mac_cyrillic", ["maccyrillic"]),
   ("mac_greek", ["macgreek"]), ("mac_latin2", ["maccentraleurope", "mac_centeuro", "maclatin2"]),
   ("tis_620", ["tis620", "tis_620_0", "tis_620_2529_0", "tis_620_2529_1", "iso_ir_166"]),
   ("hp_roman8", ["roman8", "r8", "csHPRoman8", "cp1051", "ibm1051"]),
   ("kz1048", ["kz_1048", "rk1048", "strk1048_2002"]),
   ("ptcp154", ["csptcp154", "pt154", "cp154", "cyrillic_asian"]),
   ("ascii", ["646", "ansi_x3.4_1968", "ansi_x3_4_1968", "ansi_x3.4_1986", "cp367", "csascii", "ibm367",
     "iso646_us", "iso_646.irv_1991", "iso_ir_6", "us", "us_ascii"]),
   ("latin_1", ["8859", "cp819", "csisolatin1", "ibm819", "iso8859", "iso8859_1", "iso_8859_1",
     "iso_8859_1_1987", "iso_ir_100", "l1", "latin", "latin1"]),
   ("utf_8", ["u8", "utf", "utf8", "utf8_ucs2", "utf8_ucs4", "cp65001"]), ("utf_16", ["u16", "utf16"]),
   ("utf_16_be", ["unicodebigunmarked", "utf_16be"]), ("utf_16_le", ["unicodelittleunmarked", "utf_16le"]),
   ("utf_32", ["u32", "utf32"]), ("utf_32_be", ["utf_32be"]), ("utf_32_le", ["utf_32le"]),
   ("base64_codec", ["base64", "base_64"]), ("bz2_codec", ["bz2"]), ("hex_codec", ["hex"]),
   ("quopri_codec", ["quopri", "quoted_printable", "quotedprintable"]), ("rot_13", ["rot13"]),
   ("uu_codec", ["uu"]), ("zlib_codec", ["zip", "zlib"]),
   ("big5", ["big5_tw", "csbig5", "x_mac_trad_chinese"]), ("gbk", ["936", "cp936", "ms936"]),
   ("gb18030", ["gb18030_2000"]),
   ("gb2312", ["chinese", "csiso58gb231280", "euc_cn", "euccn", "eucgb2312_cn", "gb2312_1980", "gb2312_80",
     "iso_ir_58", "x_mac_simp_chinese"]),
   ("shift_jis", ["csshiftjis", "shiftjis", "sjis", "s_jis", "x_mac_japanese"]),
   ("euc_jp", ["eucjp", "ujis", "u_jis"]),
   ("euc_kr", ["euckr", "korean", "ksc5601", "ks_c_5601", "ks_c_5601_1987", "ksx1001", "ks_x_1001",
     "x_mac_korean"]), ("cp932", ["932", "ms932", "mskanji", "ms_kanji"]), ("cp949", ["949", "ms949", "uhc"])]

-- Encodings that turn bytes into bytes and no text into anything.
def byteTransforms : List String :=
  ["base64_codec", "bz2_codec", "hex_codec", "quopri_codec", "rot_13", "uu_codec", "zlib_codec"]

def easternCharsets : List String :=
  ["big5", "gbk", "gb18030", "gb2312", "shift_jis", "euc_jp", "euc_kr", "cp932", "cp949"]

def plainName (name : String) : String :=
  let marked := name.toList.map fun c => if c.isAlphanum || c = '.' then c.toLower else '_'
  "_".intercalate ((split '_' marked).filterMap fun part => if part.isEmpty then none else some (String.ofList part))

def firstName (name : String) : String :=
  let plain := plainName name
  let aliases := [plain, plain.replace "." "_"]
  ((charsetAliases.find? fun (_, others) => others.any (· ∈ aliases)).map (·.1)).getD plain

def Charset.named? (name : String) : Option Charset :=
  match firstName name with
  | "utf_8" => some (.utf8 false)
  | "utf_8_sig" => some (.utf8 true)
  | "utf_16" => some (.utf16 none)
  | "utf_16_le" => some (.utf16 (some .little))
  | "utf_16_be" => some (.utf16 (some .big))
  | "utf_32" => some (.utf32 none)
  | "utf_32_le" => some (.utf32 (some .little))
  | "utf_32_be" => some (.utf32 (some .big))
  | "ascii" => some .ascii
  | "latin_1" => some .latin
  | "unicode_escape" => some (.escaped false)
  | "raw_unicode_escape" => some (.escaped true)
  | name =>
    if name ∈ easternCharsets then some (.eastern name)
    else if (codePageLines.lookup name).isSome then some (.page name)
    else none

def isByteTransform (name : String) : Bool := firstName name ∈ byteTransforms

def Charset.hasUnits : Charset → Bool
  | .utf16 _ => true
  | .utf32 _ => true
  | _ => false

def Charset.isUniversal : Charset → Bool
  | .utf8 _ => true
  | charset => charset.hasUnits

def Charset.label : Charset → String
  | .utf8 _ => "utf-8"
  | .utf16 none => "utf-16"
  | .utf16 (some order) => (Encoding.utf16 order).name
  | .utf32 none => "utf-32"
  | .utf32 (some order) => (Encoding.utf32 order).name
  | .ascii => "ascii"
  | .latin => "latin-1"
  | .page _ => "charmap"
  | .eastern name => name
  | .escaped raw => if raw then "rawunicodeescape" else "unicodeescape"

end RestDispatch.Text
