import KeywordCatalog.Text.Digits
import KeywordCatalog.Text.Names.BasicScripts
import KeywordCatalog.Text.Names.EastAsia
import KeywordCatalog.Text.Names.FurtherScripts
import KeywordCatalog.Text.Names.HistoricScripts
import KeywordCatalog.Text.Names.Pictographs
import KeywordCatalog.Text.Names.Symbols
import KeywordCatalog.Text.Ranges

/-!
# Names of characters

Every character of the Unicode standard has a name of its own, and some have further ones.
`codeNamed?` finds a character by a name; upper and lower case are the same in it, except in the
names that are made by a rule: ideographs are named by their code points, and syllables of Hangul by
the letters that they are written with.

The tables are the parts of a packed text. In the text itself a bar stands before the code point of the next name in
hexadecimal digits; each further name belongs to the next code point. A name starts with a small
letter, which says what it takes over from the name before it. The letters from `a` on count words at
the start of that name, `a` for none, `b` for one, and so on. The letters from `m` on count them too,
and the name also takes over the words after those that it replaces. The letter `z` stands before the
number of names that go on counting in the last word.
-/

namespace KeywordCatalog.Text

/-- Further names of characters. -/
def furtherNames : Packed where
  steps := 784
  digits := "
X-i]bTwc:[>VUEB/,J<IE:g'PnoN;Dl9zfN:^wE:nV<)`u[q'6(pnT]/wzhE,L$wJ*F6W0xbO3G)N9r:2%x3jMiVET?w1Uc>-I#)
?&UFY7.AO]wc.:>=@gp4h+[wU2Ghhw^e(?m.WZ9<JOn2BK-<z?762ilS?Qiabk&J6_S4^<LjV-7qj;'wXXhw_?tpM$;tKPMd5o][
(*%lheOAN4*Ut5wo9m)Ka1m4Dc]m+yZ`EP%Cxuk^aieR-1QDzoF;<OL*eM96T024]i>O@(.I!?fxnufBBp<>c(7^%$wJi66@Oci#
(H)/uRM[TJZp``%#hyPv!vhMv1V2'#BCeM`aSg4=IiIZ#hN,=-P)+iR)+C8#PY_d&k2<iJ(*H3]s.y/&:dcC<l36E]:UlD;p3r[c
Ij)#v&sW_,t]K9U0g_B?%C&4rn*xuZ[y$[SafXr0F3/g^Zb)by3?nxjOAi+k[K7;V6yXP`gOe/c69]LIi7f&RCywj!.ujP9DfA1%
kfKVd;S]9ye2eRt^>=n],`GV_'#th><@!$PADoTj2uNR)Xcm'z6qD[Og.]?s)>4;Q^2uAzFJq+-;&ECXx*Oq?da&S/(NZXVDQ`FG
:5,E)k:k)*gD!wEuOq$IfVf9&uw2:.4TT?K]@dVD)_b5NE,dRQp#HY<$y/0bVEVIHc2>oJ90*x[&J9l_aXQaB(Sv#Bq:9!dhwiwi
p)BSB[B[^6R'[>Drx9d^l->9&U742TWH7B]k7lRCz1s_ySver5[zS,9eL+6'Q$JXFu9KGrW,^5ew6b,3*OX*hgm^7u*cUnFt.LAg
CPVS%hb%e]6v&IyH?=2DpjB[Sp#V.A`<TWQeiaz1lCdmz(ie1pp17CfI@^_c,x^9#.>dyiuvWG=yxB*b_6w=G,B;-.61z@vXCU4:
:r0#vR!&<ShY5DGe@t7*AO@$RfPTf9TXA<dIjYFedIi1<jwNl@WA&OXd@?@]$S=rVEqhd'*ums1+^w.M@!$`8r>](qrF/(cj.bf.
N7E9Mo5smp!'KP#Ax52vS?,mVeI.=@*H&beW%>8,`WC;wn%L/5aUQ]nfNaWo+Y&J7b`'W#D*yN`[gNB*,8_)rU6Pq.vf;H'3R@c
Y-14Ot`y!$.8=y-I.I%)N,1?.tBQQlfWd_3k=7)n[H2jv[Pe*@;R5m2.]a:t+*FWsPG?F+/P6,'L2uDCj5ZnAnS/2L&KfdA:t%j
m/IO7esdLt2^8.FHBURkN"

/-- All tables of names. -/
def nameTables : List Packed :=
  [basicScripts, furtherScripts, symbolNames, eastAsia, historicScripts, pictographs, furtherNames]

/-- The number that hexadecimal digits write. -/
def hexadecimal? (digits : List Char) : Option Nat :=
  digits.foldlM (fun n d => (hexDigit? d).map fun v => n * 16 + v) 0

/-- What follows a bar in a table: the digits in front, and the entries with the positions of their
small letters in the alphabet. -/
def nameEntries (line : List Char) : List Char × List (Nat × List Char) :=
  line.foldr
    (fun c (word, entries) =>
      if c.isLower then ([], (c.toNat - 'a'.toNat, word) :: entries) else (c :: word, entries))
    ([], [])

/-- The words of a text. -/
def wordsOf (text : List Char) : List (List Char) := text.splitOn ' '

/-- Counts up the number at the end of a text, which is given from its end on. -/
def countUp : List Char → List Char
  | [] => ['1']
  | c :: rest =>
    if c == '9' then '0' :: countUp rest
    else if c.isDigit then Char.ofNat (c.toNat + 1) :: rest
    else '1' :: c :: rest

/-- How far a search for a name has come: the words of the last name, the code point after it, and
the code point that was found. -/
structure NameSearch where
  words : List (List Char) := []
  code : Nat := 0
  found : Option Nat := none
deriving DecidableEq, Repr

/-- Goes on to a name with some words. -/
def NameSearch.name (goal : List (List Char)) (s : NameSearch) (words : List (List Char)) :
    NameSearch :=
  ⟨words, s.code + 1, if words == goal then some s.code else s.found⟩

/-- Goes on to the names that count up the number in the last word. -/
def NameSearch.numbered (goal : List (List Char)) : Nat → NameSearch → NameSearch
  | 0, s => s
  | n + 1, s =>
    let last := s.words.getLast?.map fun word => (countUp word.reverse).reverse
    numbered goal n (s.name goal (s.words.dropLast ++ last.toList))

/-- Goes on to the next entry of a line. -/
def NameSearch.entry (goal : List (List Char)) (s : NameSearch) (e : Nat × List Char) :
    NameSearch :=
  if e.1 = 25 then NameSearch.numbered goal (decimal e.2) s
  else
    let words := wordsOf e.2
    if e.1 < 12 then s.name goal (s.words.take e.1 ++ words)
    else s.name goal (s.words.take (e.1 - 12) ++ words ++ s.words.drop (e.1 - 12 + words.length))

/-- Goes on to the entries after the next bar of a table. -/
def NameSearch.line (goal : List (List Char)) (s : NameSearch) (line : List Char) : NameSearch :=
  let (digits, entries) := nameEntries line
  let code := if digits.isEmpty then s.code else (hexadecimal? digits).getD s.code
  entries.foldl (entry goal) { s with code }

/-- The code point with a name in some tables. -/
def findName (goal : List (List Char)) (tables : List Packed) : Option Nat :=
  (((unpack tables).splitOn '|').foldl (NameSearch.line goal) {}).found

/-- The code points of ideographs that are named by their code points. -/
def unifiedIdeographs : Ranges :=
  [(13312, 19903), (19968, 40959), (131072, 173791), (173824, 177976), (177984, 178205),
   (178208, 183969), (183984, 191456), (196608, 201546)]

/-- Families of characters that are named by their code points, in any case. -/
def numberedFamilies : List (String × Ranges) :=
  [("CJK COMPATIBILITY IDEOGRAPH-", [(63744, 64109), (64112, 64217), (194560, 195101)]),
   ("NUSHU CHARACTER-", [(110960, 111355)]),
   ("KHITAN SMALL SCRIPT CHARACTER-", [(101120, 101589)])]

/-- The text after another one that it starts with. -/
def after? (start : String) (text : List Char) : Option (List Char) :=
  if start.toList.isPrefixOf text then some (text.drop start.length) else none

/-- The code point that four or five hexadecimal digits in upper case write. -/
def codeOfDigits? (digits : List Char) : Option Nat :=
  if (digits.length == 4 || digits.length == 5) && !digits.any Char.isLower then
    hexadecimal? digits
  else none

/-- The ideograph with a name. -/
def ideographNamed? (name : List Char) : Option Nat :=
  (after? "CJK UNIFIED IDEOGRAPH-" name).bind fun digits =>
    (codeOfDigits? digits).filter unifiedIdeographs.has

/-- The character of a numbered family with a name. The number has no zero in front. -/
def familyNamed? (name : List Char) : Option Nat :=
  numberedFamilies.findSome? fun (start, codes) =>
    (after? start name).bind fun digits =>
      if digits.head? == some '0' then none else (codeOfDigits? digits).filter codes.has

/-- The letters that a Hangul syllable can start with. -/
def leadingLetters : List String :=
  ["G", "GG", "N", "D", "DD", "R", "M", "B", "BB", "S", "SS", "", "J", "JJ", "C", "K", "T", "P",
   "H"]

/-- The vowels of Hangul. -/
def vowelLetters : List String :=
  ["A", "AE", "YA", "YAE", "EO", "E", "YEO", "YE", "O", "WA", "WAE", "OE", "YO", "U", "WEO", "WE",
   "WI", "YU", "EU", "YI", "I"]

/-- The letters that a Hangul syllable can end with. -/
def trailingLetters : List String :=
  ["", "G", "GG", "GS", "N", "NJ", "NH", "D", "L", "LG", "LM", "LB", "LS", "LT", "LP", "LH", "M",
   "B", "BS", "S", "SS", "NG", "J", "C", "K", "T", "P", "H"]

/-- The position of the longest of some letters that a text starts with, and the text after it. -/
def longestLetter? (letters : List String) (text : List Char) : Option (Nat × List Char) :=
  (letters.zipIdx.foldl
    (fun best (letter, i) =>
      if letter.toList.isPrefixOf text && best.all (fun (_, length) => length < letter.length) then
        some (i, letter.length)
      else best)
    none).map fun (i, length) => (i, text.drop length)

/-- The syllable of Hangul with a name. -/
def syllableNamed? (name : List Char) : Option Nat := do
  let letters ← after? "HANGUL SYLLABLE " name
  let (lead, letters) ← longestLetter? leadingLetters letters
  let (vowel, letters) ← longestLetter? vowelLetters letters
  let (trail, letters) ← longestLetter? trailingLetters letters
  if letters.isEmpty then some (44032 + (lead * 21 + vowel) * 28 + trail) else none

/-- The code point of the character with a name. -/
def codeNamed? (name : List Char) : Option Nat :=
  let upper := name.map Char.toUpper
  (ideographNamed? name <|> syllableNamed? name) <|> familyNamed? upper
    <|> findName (wordsOf upper) nameTables

end KeywordCatalog.Text
