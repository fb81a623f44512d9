import KeywordCatalog.Text.Charset.Iso
import KeywordCatalog.Text.Charset.Windows
import KeywordCatalog.Text.Charset.PersonalComputer
import KeywordCatalog.Text.Charset.Macintosh
import KeywordCatalog.Text.Charset.National

/-!
# Encodings by name

What is known of an encoding from its name. Most known encodings are character sets of single bytes.
Several of the others agree with the first 128 characters as long as no other byte occurs, so they
are taken for a character set as well; the rest cannot be read byte by byte.
-/

namespace KeywordCatalog.Text

/-- The first 128 characters, under the names of all encodings that begin with them and have no
single bytes beyond them. -/
def basicCharset : Charset where
  ownNames :=
    ["ascii", "iso2022_jp", "iso2022_jp_1", "iso2022_jp_2", "iso2022_jp_2004", "iso2022_jp_3",
     "iso2022_jp_ext", "utf_8", "utf_8_sig"]
  otherNames :=
    ["ansi_x3.4_1968", "ansi_x3.4_1986", "ansi_x3_4_1968", "cp367", "cp65001", "csascii",
     "csiso2022jp", "ibm367", "iso2022jp", "iso2022jp_1", "iso2022jp_2", "iso2022jp_2004",
     "iso2022jp_3", "iso2022jp_ext", "iso646_us", "iso_2022_jp", "iso_2022_jp_1", "iso_2022_jp_2",
     "iso_2022_jp_2004", "iso_2022_jp_3", "iso_2022_jp_ext", "iso_646.irv_1991", "iso_ir_6", "u8",
     "us", "us_ascii", "utf", "utf8", "utf8_ucs2", "utf8_ucs4"]
  upper := String.ofList (List.replicate 128 '\ufffd')

/-- The first 128 characters, but for the tilde, which changes the meaning of what follows. -/
def shiftedCharset : Charset where
  ownNames := ["hz"]
  otherNames := ["hz_gb", "hz_gb_2312", "hzgb"]
  upper := String.ofList (List.replicate 128 '\ufffd')
  gaps := ['~'.toNat]

/-- The first 256 characters. -/
def westernCharset : Charset where
  ownNames := ["charmap", "latin_1", "raw_unicode_escape", "unicode_escape"]
  otherNames :=
    ["cp819", "csisolatin1", "ibm819", "iso8859", "iso8859_1", "iso_8859_1", "iso_8859_1_1987",
     "iso_ir_100", "l1", "latin", "latin1"]
  upper := String.ofList ((List.range 128).map fun n => Char.ofNat (128 + n))

/-- The known character sets. -/
def charsets : List Charset :=
  basicCharset :: westernCharset :: shiftedCharset :: (isoCharsets ++ windowsCharsets
    ++ personalComputerCharsets ++ macintoshCharsets ++ nationalCharsets)

/-- The encodings in which several bytes make up a character: their own and their other names. -/
def wideNames : List String × List String :=
  (["big5", "big5hkscs", "cp932", "cp949", "cp950", "euc_jis_2004", "euc_jisx0213", "euc_jp",
    "euc_kr", "gb18030", "gb2312", "gbk", "iso2022_kr", "johab", "shift_jis", "shift_jis_2004",
    "shift_jisx0213", "utf_16", "utf_16_be", "utf_16_le", "utf_32", "utf_32_be", "utf_32_le",
    "utf_7"],
   ["big5_hkscs", "big5_tw", "chinese", "cp1361", "cp936", "csbig5", "csiso2022kr",
    "csiso58gb231280", "csshiftjis", "euc_cn", "euc_jis2004", "euccn", "eucgb2312_cn",
    "eucjis2004", "eucjisx0213", "eucjp", "euckr", "gb18030_2000", "gb2312_1980", "gb2312_80",
    "hkscs", "iso2022kr", "iso_2022_kr", "iso_ir_58", "jisx0213", "korean", "ks_c_5601",
    "ks_c_5601_1987", "ks_x_1001", "ksc5601", "ksx1001", "ms1361", "ms932", "ms936", "ms949",
    "ms950", "ms_kanji", "mskanji", "s_jis", "s_jis_2004", "s_jisx0213", "shiftjis",
    "shiftjis2004", "shiftjisx0213", "sjis", "sjis_2004", "sjisx0213", "u16", "u32", "u7", "u_jis",
    "uhc", "ujis", "unicode_1_1_utf_7", "unicodebigunmarked", "unicodelittleunmarked", "utf16",
    "utf32", "utf7", "utf_16be", "utf_16le", "utf_32be", "utf_32le", "x_mac_japanese",
    "x_mac_korean", "x_mac_simp_chinese", "x_mac_trad_chinese"])

/-- The encodings whose bytes below 128 stand for other characters than usual: their own and their
other names. -/
def foreignNames : List String × List String :=
  (["cp037", "cp1026", "cp1140", "cp273", "cp424", "cp500", "cp864", "cp875", "mac_arabic",
    "mac_farsi"],
   ["csibm037", "csibm1026", "csibm273", "csibm424", "csibm500", "csibm864", "ebcdic_cp_be",
    "ebcdic_cp_ca", "ebcdic_cp_ch", "ebcdic_cp_he", "ebcdic_cp_nl", "ebcdic_cp_us", "ebcdic_cp_wt",
    "ibm037", "ibm039", "ibm1026", "ibm1140", "ibm273", "ibm424", "ibm500", "ibm864"])

/-- What is known of an encoding. -/
inductive Encoding
  /-- Each byte stands for a character. -/
  | charset (set : Charset)
  /-- Several bytes make up a character. -/
  | wide
  /-- The bytes below 128 stand for other characters than usual. -/
  | foreign
  /-- A text with a byte beyond the first 128 cannot be read in it. -/
  | narrow
  /-- A text is read in it whole or not at all. -/
  | strict
deriving DecidableEq, Repr

/-- The encoding of a name. -/
def Encoding.named? (name : List Char) : Option Encoding :=
  let key := charsetKey name
  match charsets.find? fun s => listsName s.ownNames s.otherNames key with
  | some s => some (.charset s)
  | none =>
    if listsName wideNames.1 wideNames.2 key then some .wide
    else if listsName foreignNames.1 foreignNames.2 key then some .foreign
    else if listsName ["punycode"] [] key then some .narrow
    else if listsName ["idna", "undefined"] [] key then some .strict
    else none

end KeywordCatalog.Text
