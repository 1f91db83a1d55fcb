import MailSync.Text.Bytes
import MailSync.Text.Charset.ByteTable
import MailSync.Text.Charset.Chinese
import MailSync.Text.Charset.Japanese
import MailSync.Text.Charset.Korean
import MailSync.Text.Charset.Utf16
import MailSync.Text.Charset.Utf7
import MailSync.Text.Utf8

/-!
# Character sets

The character sets that a text may be in, told by their registered names. A name is the same in
either case, and with underscores for hyphens. Every text is one of UTF-8 if its set is not known.
-/

namespace MailSync

namespace Charset

/-- A set whose texts may be in UTF-8 or UTF-16 after all, which a mark in front of them tells. -/
inductive Markable where
  | windows874
  | ibm866
  | shiftJis
  | eucJp
  | iso2022Jp
  | eucKr
  | gb18030
  | big5
  deriving DecidableEq, Repr

namespace Markable

/-- The text of a byte sequence without a mark. -/
def decodeUnmarked (c : Markable) (bytes : List UInt8) : String :=
  match c with
  | windows874 => ByteTable.windows874.decode bytes
  | ibm866 => ByteTable.ibm866.decode bytes
  | shiftJis => String.ofList (ShiftJis.set.chars bytes)
  | eucJp => String.ofList (EucJp.chars bytes)
  | iso2022Jp => String.ofList (Iso2022Jp.chars .ascii false bytes)
  | eucKr => String.ofList (EucKr.set.chars bytes)
  | gb18030 => String.ofList (Gb18030.chars bytes)
  | big5 => String.ofList (Big5.set.chars bytes)

/-- The text of a byte sequence. -/
def decode (c : Markable) : List UInt8 → String
  | 0xEF :: 0xBB :: 0xBF :: rest => Utf8.decodeLossy rest
  | 0xFE :: 0xFF :: rest => Utf16.decodeWhole .bigEndian rest
  | 0xFF :: 0xFE :: rest => Utf16.decodeWhole .littleEndian rest
  | bytes => c.decodeUnmarked bytes

end Markable

end Charset

/-- A character set. -/
inductive Charset where
  /-- UTF-8, which is also that of unknown names. -/
  | utf8
  /-- A set of one byte. -/
  | byteTable (t : Charset.ByteTable)
  | utf7
  /-- UTF-16 in a known order. -/
  | utf16 (order : Charset.Utf16.ByteOrder)
  /-- UTF-16 that may start with a mark of its order. -/
  | utf16Marked
  /-- A set that gives way to a mark of UTF-8 or UTF-16. -/
  | markable (c : Charset.Markable)
  deriving DecidableEq, Repr

namespace Charset

/-- The text of a byte sequence in a character set. What is no character there is U+FFFD. -/
def decode (c : Charset) (bytes : List UInt8) : String :=
  match c with
  | utf8 => Utf8.decodeLossy bytes
  | byteTable t => t.decode bytes
  | utf7 => Utf7.decode bytes
  | utf16 order => Utf16.decode order bytes
  | utf16Marked => Utf16.decodeMarked bytes
  | markable c => c.decode bytes

/-- The names of the known character sets other than UTF-8, in lower case and with hyphens. -/
def names : List (Charset × List String) :=
  [(byteTable .isoLatin1,
      ["iso-8859-1", "iso-8859-1:1987", "iso-ir-100", "latin1", "l1", "ibm819", "cp819",
        "csisolatin1"]),
    (byteTable .isoLatin2,
      ["iso-8859-2", "iso-8859-2:1987", "iso-ir-101", "latin2", "l2", "csisolatin2"]),
    (byteTable .isoLatin3,
      ["iso-8859-3", "iso-8859-3:1988", "iso-ir-109", "latin3", "l3", "csisolatin3"]),
    (byteTable .isoLatin4,
      ["iso-8859-4", "iso-8859-4:1988", "iso-ir-110", "latin4", "l4", "csisolatin4"]),
    (byteTable .isoCyrillic,
      ["iso-8859-5", "iso-8859-5:1988", "iso-ir-144", "cyrillic", "csisolatincyrillic"]),
    (byteTable .isoArabic,
      ["iso-8859-6", "iso-8859-6:1987", "iso-ir-127", "ecma-114", "asmo-708", "arabic",
        "csisolatinarabic"]),
    (byteTable .isoGreek,
      ["iso-8859-7", "iso-8859-7:1987", "iso-ir-126", "elot-928", "ecma-118", "greek", "greek8",
        "csisolatingreek"]),
    (byteTable .isoHebrew,
      ["iso-8859-8", "iso-8859-8:1988", "iso-ir-138", "hebrew", "csisolatinhebrew"]),
    (byteTable .isoLatin5,
      ["iso-8859-9", "iso-8859-9:1989", "iso-ir-148", "latin5", "l5", "csisolatin5"]),
    (byteTable .isoLatin6,
      ["iso-8859-10", "iso-8859-10:1992", "iso-ir-157", "latin6", "l6", "csisolatin6"]),
    (byteTable .isoThai, ["tis-620", "cstis620", "iso-8859-11"]),
    (byteTable .isoLatin7, ["iso-8859-13", "csiso885913"]),
    (byteTable .isoLatin8,
      ["iso-8859-14", "iso-8859-14:1998", "iso-ir-199", "latin8", "iso-celtic", "l8",
        "csiso885914"]),
    (byteTable .isoLatin9, ["iso-8859-15", "latin-9", "csiso885915"]),
    (byteTable .isoLatin10,
      ["iso-8859-16", "iso-8859-16:2001", "iso-ir-226", "latin10", "l10", "csiso885916"]),
    (byteTable .windows1250, ["windows-1250", "cswindows1250"]),
    (byteTable .windows1251, ["windows-1251", "cswindows1251"]),
    (byteTable .windows1252, ["windows-1252", "cswindows1252"]),
    (byteTable .windows1253, ["windows-1253", "cswindows1253"]),
    (byteTable .windows1254, ["windows-1254", "cswindows1254"]),
    (byteTable .windows1255, ["windows-1255", "cswindows1255"]),
    (byteTable .windows1256, ["windows-1256", "cswindows1256"]),
    (byteTable .windows1257, ["windows-1257", "cswindows1257"]),
    (byteTable .windows1258, ["windows-1258", "cswindows1258"]),
    (markable .windows874, ["windows-874", "cswindows874"]),
    (byteTable .koi8r, ["koi8-r", "cskoi8r"]),
    (byteTable .koi8u, ["koi8-u", "cskoi8u"]),
    (byteTable .macintosh, ["macintosh", "mac", "csmacintosh"]),
    (byteTable .ibm850, ["ibm850", "cp850", "850", "cspc850multilingual"]),
    (markable .ibm866, ["ibm866", "cp866", "866", "csibm866"]),
    (utf7, ["utf-7", "csutf7"]),
    (utf16 .bigEndian, ["utf-16be", "csutf16be"]),
    (utf16 .littleEndian, ["utf-16le", "csutf16le"]),
    (utf16Marked, ["utf-16", "csutf16"]),
    (markable .shiftJis, ["shift-jis", "ms-kanji", "csshiftjis"]),
    (markable .eucJp,
      ["euc-jp", "extended-unix-code-packed-format-for-japanese", "cseucpkdfmtjapanese"]),
    (markable .iso2022Jp, ["iso-2022-jp", "csiso2022jp"]),
    (markable .eucKr, ["euc-kr", "cseuckr", "ks-c-5601-1987"]),
    (markable .gb18030,
      ["gb18030", "csgb18030", "gbk", "cp936", "ms936", "windows-936", "csgbk", "gb2312"]),
    (markable .big5, ["big5", "csbig5"])]

/-- A byte of a name as names are told apart by it. -/
def nameChar (b : UInt8) : Char :=
  if b = Bytes.byte '_' then '-' else Char.ofNat (Bytes.toLower b).toNat

/-- The character set with a name. -/
def ofName (name : List UInt8) : Charset :=
  let name := String.ofList (name.map nameChar)
  ((names.find? (·.2.contains name)).map (·.1)).getD utf8

end Charset

end MailSync
