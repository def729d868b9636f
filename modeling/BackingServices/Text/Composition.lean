import BackingServices.Text.Mark

/-!
# Composed text

A character and a mark behind it may be one character in another form.  `composed`
brings a text into its composed form.  It takes all characters apart, brings the marks
behind a character into rising order, and puts a character and a mark together where
they have a common form and no mark of the same order or of order zero is between them.
Syllables of Hangul are put together by arithmetic.

The table leaves out characters that never occur in a domain name in standard form.
-/

namespace BackingServices.Text

/-- The composed forms, by their mark: a character and its form, again and again. -/
def Composition.forms : List (Nat × String) := [
  (0x300, "aàeèiìoòuùüǜnǹеѐиѝēḕōṑwẁâầăằêềôồơờưừyỳἀἂἁἃἐἒἑἓἠἢἡἣἰἲἱἳὀὂὁὃὐὒὑὓὠὢὡὣαὰεὲηὴιὶοὸυὺωὼϊῒϋῢ"),
  (0x301, "aáeéiíoóuúyýcćlĺnńrŕsśzźüǘgǵåǻæǽøǿϊΐαάεέηήιίϋΰοόυύωώгѓкќçḉēḗïḯkḱmḿõṍōṓpṕũṹwẃâấăắ"),
  (0x301, "êếôốơớưứἀἄἁἅἐἔἑἕἠἤἡἥἰἴἱἵὀὄὁὅὐὔὑὕὠὤὡὥ"),
  (0x302, "aâeêiîoôuûcĉgĝhĥjĵsŝwŵyŷzẑạậẹệọộ"),
  (0x303, "aãnñoõiĩuũvṽâẫăẵeẽêễôỗơỡưữyỹ"),
  (0x304, "aāeēiīoōuūüǖäǟȧǡæǣǫǭöȫõȭȯȱyȳиӣуӯgḡḷḹṛṝαᾱιῑυῡ"),
  (0x306, "aăeĕgğiĭoŏuŭийуўжӂаӑеӗȩḝạặαᾰιῐυῠ"),
  (0x307, "cċeėgġzżaȧoȯbḃdḋfḟhḣmṁnṅpṗrṙsṡśṥšṧṣṩtṫwẇxẋyẏ𐗒𐗉𐗚𐗤"),
  (0x308, "aäeëiïoöuüyÿιϊυϋеёіїаӓәӛжӝзӟиӥоӧөӫэӭуӱчӵыӹhḧõṏūṻwẅxẍtẗ"),
  (0x309, "aảâẩăẳeẻêểiỉoỏôổơởuủưửyỷ"),
  (0x30A, "aåuůwẘyẙ"),
  (0x30B, "oőuűуӳ"),
  (0x30C, "cčdďeělľnňrřsštťzžaǎiǐoǒuǔüǚgǧkǩʒǯjǰhȟ"),
  (0x30F, "aȁeȅiȉoȍrȑuȕѵѷ"),
  (0x311, "aȃeȇiȋoȏrȓuȗ"),
  (0x313, "αἀεἐηἠιἰοὀυὐωὠρῤ"),
  (0x314, "αἁεἑηἡιἱοὁυὑωὡρῥ"),
  (0x31B, "oơuư"),
  (0x323, "bḅdḍhḥkḳlḷmṃnṇrṛsṣtṭvṿwẉzẓaạeẹiịoọơợuụưựyỵ"),
  (0x324, "uṳ"),
  (0x325, "aḁ"),
  (0x326, "sștț"),
  (0x327, "cçgģkķlļnņrŗsştţeȩdḑhḩ"),
  (0x328, "aąeęiįuųoǫ"),
  (0x32D, "dḓeḙlḽnṋtṱuṷ"),
  (0x32E, "hḫ"),
  (0x330, "eḛiḭuṵ"),
  (0x331, "bḇdḏkḵlḻnṉrṟtṯzẕhẖ"),
  (0x338, "←↚→↛↔↮⇐⇍⇔⇎⇒⇏∃∄∈∉∋∌∣∤∥∦∼≁≃≄≅≇≈≉=≠≡≢≍≭<≮>≯≤≰≥≱≲≴≳≵≶≸≷≹≺⊀≻⊁⊂⊄⊃⊅⊆⊈⊇⊉⊢⊬⊨⊭⊩⊮⊫⊯≼⋠≽⋡⊑⋢⊒⋣"),
  (0x338, "⊲⋪⊳⋫⊴⋬⊵⋭"),
  (0x342, "ἀἆἁἇἠἦἡἧἰἶἱἷὐὖὑὗὠὦὡὧαᾶηῆιῖϊῗυῦϋῧωῶ"),
  (0x653, "\u0627\u0622"),
  (0x654, "\u0627\u0623\u0648\u0624\u064a\u0626\u06d5\u06c0\u06c1\u06c2\u06d2\u06d3"),
  (0x655, "\u0627\u0625"),
  (0x93C, "नऩरऱळऴ"),
  (0x9BE, "\u09c7\u09cb"),
  (0x9D7, "\u09c7\u09cc"),
  (0xB3E, "\u0b47\u0b4b"),
  (0xB56, "\u0b47\u0b48"),
  (0xB57, "\u0b47\u0b4c"),
  (0xBBE, "\u0bc6\u0bca\u0bc7\u0bcb"),
  (0xBD7, "ஒஔ\u0bc6\u0bcc"),
  (0xC56, "\u0c46\u0c48"),
  (0xCC2, "\u0cc6\u0cca"),
  (0xCD5, "\u0cbf\u0cc0\u0cc6\u0cc7\u0cca\u0ccb"),
  (0xCD6, "\u0cc6\u0cc8"),
  (0xD3E, "\u0d46\u0d4a\u0d47\u0d4b"),
  (0xD57, "\u0d46\u0d4c"),
  (0xDCA, "\u0dd9\u0dda\u0ddc\u0ddd"),
  (0xDCF, "\u0dd9\u0ddc"),
  (0xDDF, "\u0dd9\u0dde"),
  (0x102E, "ဥဦ"),
  (0x1B35, "ᬅᬆᬇᬈᬉᬊᬋᬌᬍᬎᬑᬒ\u1b3a\u1b3b\u1b3c\u1b3d\u1b3e\u1b40\u1b3f\u1b41\u1b42\u1b43"),
  (0x3099, "かがきぎくぐけげこごさざしじすずせぜそぞただちぢつづてでとどはばひびふぶへべほぼうゔゝゞカガキギクグケゲコゴサザシジスズセゼソゾタダチヂツヅテデトドハバヒビフブ"),
  (0x3099, "ヘベホボウヴワヷヰヸヱヹヲヺヽヾ"),
  (0x309A, "はぱひぴふぷへぺほぽハパヒピフプヘペホポ"),
  (0x110BA, "𑂙𑂚𑂛𑂜𑂥𑂫"),
  (0x11127, "𑄱𑄮𑄲𑄯"),
  (0x1133E, "𑍇𑍋"),
  (0x11357, "𑍇𑍌"),
  (0x113B8, "𑏅𑎸"),
  (0x113BB, "𑎄𑎅"),
  (0x113C2, "𑎋𑎎𑏅𑏂"),
  (0x113C9, "𑎂𑎃𑎐𑎑𑏅𑏉"),
  (0x114B0, "𑒹𑒼"),
  (0x114BA, "𑒹𑒻"),
  (0x114BD, "𑒹𑒾"),
  (0x115AF, "𑖸𑖺𑖹𑖻"),
  (0x11930, "𑤵𑤸"),
  (0x1611E, "𖄡𖄞"),
  (0x1611F, "𖄦𖄩𖄤𖄡𖄦𖄢𖄧"),
  (0x16120, "𖄨𖄡𖄨"),
  (0x16129, "𖄡𖄩"),
  (0x16D67, "𖵨𖵧𖵣𖵩𖵩𖵪")]

namespace Composition

/-- The pairs that an even number of characters makes. -/
def pairs : List Char → List (Char × Char)
  | a :: b :: rest => (a, b) :: pairs rest
  | _ => []

/-! ## Hangul -/

/-- The first leading consonant. -/
def leading : Nat := 0x1100

/-- The first vowel. -/
def vowel : Nat := 0x1161

/-- What is one before the first trailing consonant. -/
def trailing : Nat := 0x11A7

/-- The first syllable. -/
def syllable : Nat := 0xAC00

/-- How many vowels there are. -/
def vowels : Nat := 21

/-- How many trailing consonants there are, counting none as one. -/
def trailings : Nat := 28

/-- How many syllables there are. -/
def syllables : Nat := 11172

/-- The syllable of two parts. -/
def hangul? (a b : Char) : Option Char :=
  let l := a.toNat - leading
  let v := b.toNat - vowel
  let s := a.toNat - syllable
  let t := b.toNat - trailing
  if leading ≤ a.toNat ∧ l < 19 ∧ vowel ≤ b.toNat ∧ v < vowels then
    some (Char.ofNat (syllable + (l * vowels + v) * trailings))
  else if syllable ≤ a.toNat ∧ s < syllables ∧ s % trailings = 0 ∧ trailing < b.toNat ∧ t < trailings then
    some (Char.ofNat (a.toNat + t))
  else none

/-- The parts of a syllable. -/
def hangulParts? (c : Char) : Option (Char × Char) :=
  let s := c.toNat - syllable
  if syllable ≤ c.toNat ∧ s < syllables then
    if s % trailings = 0 then
      some (Char.ofNat (leading + s / trailings / vowels), Char.ofNat (vowel + s / trailings % vowels))
    else some (Char.ofNat (c.toNat - s % trailings), Char.ofNat (trailing + s % trailings))
  else none

/-! ## Putting together and taking apart -/

/-- The common form of two characters. -/
def join? (a b : Char) : Option Char :=
  (hangul? a b).or (forms.findSome? fun (mark, s) =>
    if mark = b.toNat then (pairs s.toList).lookup a else none)

/-- The two characters whose common form a character is. -/
def split? (c : Char) : Option (Char × Char) :=
  (hangulParts? c).or (forms.findSome? fun (mark, s) =>
    ((pairs s.toList).find? fun pair => pair.2 == c).map fun pair => (pair.1, Char.ofNat mark))

/-- A character taken apart, with fuel for so many steps. -/
def parts : Nat → Char → List Char
  | 0, c => [c]
  | n + 1, c =>
    if c.toNat < 0x80 then [c]
    else
      match split? c with
      | some (a, b) => parts n a ++ [b]
      | none => [c]

/-- The greatest number of marks in a composed form. -/
def greatestDepth : Nat := 4

/-- A mark put among marks, behind those of the same or a lower order. -/
def place (c : Char) : List Char → List Char
  | [] => [c]
  | d :: ds => if markOrder c < markOrder d then c :: d :: ds else d :: place c ds

/-- Characters with their marks in rising order, given the marks behind the last character. -/
def sorted (marks : List Char) : List Char → List Char
  | [] => marks
  | c :: cs => if markOrder c = 0 then marks ++ c :: sorted [] cs else sorted (place c marks) cs

/-- Puts characters together, given the one that is added to, the marks behind it that stay, and the
order of the last of these. -/
def assemble (base : Char) (marks : List Char) (last? : Option Nat) : List Char → List Char
  | [] => base :: marks
  | c :: cs =>
    let order := markOrder c
    let isFree := last?.all fun last => last < order
    match if isFree then join? base c else none with
    | some joined => assemble joined marks last? cs
    | none =>
      if order = 0 then base :: marks ++ assemble c [] none cs
      else assemble base (marks ++ [c]) (some order) cs

end Composition

/-- A text in its composed form. -/
def composed (cs : List Char) : List Char :=
  match Composition.sorted [] (cs.flatMap (Composition.parts Composition.greatestDepth)) with
  | [] => []
  | c :: rest => Composition.assemble c [] none rest

end BackingServices.Text
