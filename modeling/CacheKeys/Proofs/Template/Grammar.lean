import Mathlib
import CacheKeys.Template.Reader

/-! # The grammar of templates

The language of templates as derivations, apart from any way of reading it.  Every relation says
which text derives which value; positions are counted in bytes from the beginning of the template,
and `room` is the number of braces that may still be open at once.

* `DerivesQuoted` — the characters between two quotes and the text they stand for;
* `DerivesText` — a non-empty run of word characters and quoted strings, which is one literal;
* `DerivesParts`, `DerivesItem`, `DerivesItems`, `DerivesGroup` — the inside of braces:
  a group is `{ ws* item (ws+ item)* ws* }`, an item a juxtaposition of text and groups;
* `GroupMeans` — the node that the items of a group stand for;
* `Derives` — a whole template, which alternates maximal runs without braces and groups. -/

namespace CacheKeys.Template

/-! ### Positions in a text -/

def byteLength (cs : List Char) : ℕ := (cs.map Char.utf8Size).sum

@[simp] theorem byteLength_nil : byteLength [] = 0 := rfl

@[simp] theorem byteLength_cons (c : Char) (cs : List Char) :
    byteLength (c :: cs) = c.utf8Size + byteLength cs := by simp [byteLength]

@[simp] theorem byteLength_append (cs ds : List Char) :
    byteLength (cs ++ ds) = byteLength cs + byteLength ds := by simp [byteLength]

theorem utf8ByteSize_ofList (cs : List Char) :
    (String.ofList cs).utf8ByteSize = byteLength cs := by
  induction cs with
  | nil => rfl
  | cons c cs ih =>
      rw [String.ofList_cons, String.utf8ByteSize_append, ih, String.utf8ByteSize_singleton,
        byteLength_cons]

theorem byteLength_toList (s : String) : byteLength s.toList = s.utf8ByteSize := by
  rw [← utf8ByteSize_ofList, String.ofList_toList]

theorem utf8Size_brace : '{'.utf8Size = 1 ∧ '}'.utf8Size = 1 ∧ '"'.utf8Size = 1 := by decide

/-! ### Characters -/

/-- A character of a word: no blank, brace or quote. -/
def isWordChar (c : Char) : Bool :=
  !(Text.isBlank c || c == '{' || c == '}' || c == '"')

def Blanks (cs : List Char) : Prop := ∀ c ∈ cs, Text.isBlank c = true

def BraceFree (cs : List Char) : Prop := ∀ c ∈ cs, c ≠ '{' ∧ c ≠ '}'

/-- The text is empty or its last character closes a group. -/
def EndsGroup (cs : List Char) : Prop := ∀ c ∈ cs.getLast?, c = '}'

theorem isWordChar_iff {c : Char} :
    isWordChar c = true ↔ Text.isBlank c = false ∧ c ≠ '{' ∧ c ≠ '}' ∧ c ≠ '"' := by
  simp [isWordChar, and_assoc]

theorem Blanks.nil : Blanks [] := fun _ h => absurd h List.not_mem_nil

theorem Blanks.append {cs ds : List Char} (h : Blanks cs) (h' : Blanks ds) : Blanks (cs ++ ds) :=
  fun c hc => (List.mem_append.1 hc).elim (h c) (h' c)

theorem Blanks.singleton {c : Char} (h : Text.isBlank c = true) : Blanks [c] :=
  fun _ hd => List.mem_singleton.1 hd ▸ h

theorem BraceFree.nil : BraceFree [] := fun _ h => absurd h List.not_mem_nil

theorem BraceFree.append {cs ds : List Char} (h : BraceFree cs) (h' : BraceFree ds) :
    BraceFree (cs ++ ds) :=
  fun c hc => (List.mem_append.1 hc).elim (h c) (h' c)

theorem EndsGroup.nil : EndsGroup [] := fun _ h => by simp at h

theorem EndsGroup.close (cs : List Char) : EndsGroup (cs ++ ['}']) := fun c h => by
  simpa using h.symm

/-! ### Quoted text and words -/

/-- What stands between two quotes, and the text that it stands for: a backslash is written before
a quote or a backslash, and before any other character it stands for itself. -/
inductive DerivesQuoted : List Char → String → Prop
  | nil : DerivesQuoted [] ""
  | plain {src : List Char} {text : String} {c : Char} :
      DerivesQuoted src text → c ≠ '"' → c ≠ '\\' →
      DerivesQuoted (src ++ [c]) (text.push c)
  | escape {src : List Char} {text : String} {c : Char} :
      DerivesQuoted src text → c = '"' ∨ c = '\\' →
      DerivesQuoted (src ++ ['\\', c]) (text.push c)
  | backslash {src : List Char} {text : String} {c : Char} :
      DerivesQuoted src text → c ≠ '"' → c ≠ '\\' →
      DerivesQuoted (src ++ ['\\', c]) ((text.push '\\').push c)

/-- A non-empty run of word characters and quoted strings, and the text of the literal that they
merge into. -/
inductive DerivesText : List Char → String → Prop
  | char {c : Char} : isWordChar c = true → DerivesText [c] (String.singleton c)
  | quoted {src : List Char} {text : String} :
      DerivesQuoted src text → DerivesText ('"' :: (src ++ ['"'])) text
  | append {src src' : List Char} {text text' : String} :
      DerivesText src text → DerivesText src' text' → DerivesText (src ++ src') (text ++ text')

/-! ### Groups -/

/-- The node of an item: a single part stands for itself, several for their juxtaposition. -/
def ofParts : List Expr → Expr
  | [e] => e
  | parts => .concat parts

/-- The item written as `src` at a position; it is a word if it has word characters only. -/
def itemOf (pos : ℕ) (src : List Char) (parts : List Expr) : Item :=
  ⟨pos, String.ofList src, src.all isWordChar, ofParts parts⟩

/-- The node that a group with these items stands for.  A word with an argument is a call, and so
is a lone word that is no number; a lone number is an index if it fits into 64 bits; any other lone
item stands for itself. -/
inductive GroupMeans : List Item → Expr → Prop
  | index {head : Item} :
      head.isWord = true → Text.isNumeral head.source.toList = true →
      Text.numeralValue head.source.toList < 2 ^ 64 →
      GroupMeans [head] (.argRef (Text.numeralValue head.source.toList))
  | name {head : Item} :
      head.isWord = true → Text.isNumeral head.source.toList = false →
      GroupMeans [head] (.call head.source [] head.offset)
  | whole {head : Item} :
      head.isWord = false → GroupMeans [head] head.expr
  | call {head : Item} {args : List Item} :
      head.isWord = true → args ≠ [] →
      GroupMeans (head :: args) (.call head.source (args.map Item.expr) head.offset)

mutual

/-- A group at a position, from its opening to its closing brace. -/
inductive DerivesGroup : ℕ → ℕ → List Char → Expr → Prop
  | braces {room pos : ℕ} {lead src trail : List Char} {items : List Item} {e : Expr} :
      Blanks lead → DerivesItems room (pos + 1 + byteLength lead) src items → Blanks trail →
      GroupMeans items e →
      DerivesGroup (room + 1) pos ('{' :: (lead ++ src ++ trail ++ ['}'])) e

/-- Items with blanks between them. -/
inductive DerivesItems : ℕ → ℕ → List Char → List Item → Prop
  | first {room pos : ℕ} {src : List Char} {item : Item} :
      DerivesItem room pos src item → DerivesItems room pos src [item]
  | next {room pos : ℕ} {src gap src' : List Char} {items : List Item} {item : Item} :
      DerivesItems room pos src items → Blanks gap → gap ≠ [] →
      DerivesItem room (pos + byteLength (src ++ gap)) src' item →
      DerivesItems room pos (src ++ gap ++ src') (items ++ [item])

/-- An item: a juxtaposition that is not empty. -/
inductive DerivesItem : ℕ → ℕ → List Char → Item → Prop
  | parts {room pos : ℕ} {src : List Char} {parts : List Expr} :
      DerivesParts room pos src parts → src ≠ [] →
      DerivesItem room pos src (itemOf pos src parts)

/-- A juxtaposition of maximal runs of text and groups. -/
inductive DerivesParts : ℕ → ℕ → List Char → List Expr → Prop
  | nil {room pos : ℕ} : DerivesParts room pos [] []
  | text {room pos : ℕ} {src src' : List Char} {parts : List Expr} {text : String} :
      DerivesParts room pos src parts → EndsGroup src → DerivesText src' text →
      DerivesParts room pos (src ++ src') (parts ++ [.literal text])
  | group {room pos : ℕ} {src src' : List Char} {parts : List Expr} {e : Expr} :
      DerivesParts room pos src parts → DerivesGroup room (pos + byteLength src) src' e →
      DerivesParts room pos (src ++ src') (parts ++ [e])

end

/-! ### Templates -/

/-- Alternating maximal runs without braces and groups. -/
inductive DerivesNodes (room : ℕ) : List Char → List Expr → Prop
  | nil : DerivesNodes room [] []
  | run {src run : List Char} {nodes : List Expr} :
      DerivesNodes room src nodes → EndsGroup src → run ≠ [] → BraceFree run →
      DerivesNodes room (src ++ run) (nodes ++ [.literal (String.ofList run)])
  | group {src src' : List Char} {nodes : List Expr} {e : Expr} :
      DerivesNodes room src nodes → DerivesGroup room (byteLength src) src' e →
      DerivesNodes room (src ++ src') (nodes ++ [e])

/-- A template with at most `room` braces open at once; the empty one is an empty literal. -/
def Derives (room : ℕ) (src : List Char) (nodes : List Expr) : Prop :=
  (src = [] ∧ nodes = [.literal ""]) ∨ (src ≠ [] ∧ DerivesNodes room src nodes)

/-! ### First and last characters -/

theorem DerivesText.ne_nil {src : List Char} {text : String} (h : DerivesText src text) :
    src ≠ [] := by
  induction h with
  | char => simp
  | quoted => simp
  | append _ _ ih _ => exact fun e => ih (List.append_eq_nil_iff.1 e).1

theorem DerivesText.head {src : List Char} {text : String} (h : DerivesText src text) :
    ∀ c ∈ src.head?, Text.isBlank c = false ∧ c ≠ '}' := by
  induction h with
  | char hc =>
      intro d hd
      obtain ⟨hb, _, hr, _⟩ := isWordChar_iff.1 hc
      simp only [List.head?_cons, Option.mem_def, Option.some.injEq] at hd
      exact hd ▸ ⟨hb, hr⟩
  | quoted =>
      intro d hd
      simp only [List.head?_cons, Option.mem_def, Option.some.injEq] at hd
      exact hd ▸ ⟨by decide, by decide⟩
  | append h _ ih _ =>
      intro d hd
      rw [List.head?_append_of_ne_nil _ h.ne_nil] at hd
      exact ih d hd

theorem DerivesText.getLast {src : List Char} {text : String} (h : DerivesText src text) :
    ∀ c ∈ src.getLast?, c ≠ '}' := by
  induction h with
  | char hc =>
      intro d hd
      simp only [List.getLast?_singleton, Option.mem_def, Option.some.injEq] at hd
      exact hd ▸ (isWordChar_iff.1 hc).2.2.1
  | @quoted src =>
      intro d hd
      rw [← List.cons_append, List.getLast?_append_of_ne_nil _ (by simp)] at hd
      simp only [List.getLast?_singleton, Option.mem_def, Option.some.injEq] at hd
      exact hd ▸ by decide
  | append _ h _ ih =>
      intro d hd
      rw [List.getLast?_append_of_ne_nil _ h.ne_nil] at hd
      exact ih d hd

/-- A run of text does not end a group, so nothing but a group may follow it. -/
theorem DerivesText.not_endsGroup {src : List Char} {text : String} (h : DerivesText src text)
    (before : List Char) : ¬ EndsGroup (before ++ src) := by
  intro he
  have hl := List.getLast?_eq_some_getLast h.ne_nil
  rw [EndsGroup, List.getLast?_append_of_ne_nil _ h.ne_nil, hl] at he
  exact h.getLast _ hl (he _ rfl)

theorem DerivesGroup.exists_body {room pos : ℕ} {src : List Char} {e : Expr}
    (h : DerivesGroup room pos src e) : ∃ body, src = '{' :: (body ++ ['}']) := by
  cases h with
  | braces => exact ⟨_, rfl⟩

theorem DerivesGroup.endsGroup {room pos : ℕ} {src : List Char} {e : Expr}
    (h : DerivesGroup room pos src e) (before : List Char) : EndsGroup (before ++ src) := by
  obtain ⟨body, rfl⟩ := h.exists_body
  rw [show before ++ '{' :: (body ++ ['}']) = (before ++ '{' :: body) ++ ['}'] by simp]
  exact EndsGroup.close _

/-- A juxtaposition begins with a word character, a quote or an opening brace. -/
theorem DerivesParts.head {room pos : ℕ} : ∀ {src : List Char} {parts : List Expr},
    DerivesParts room pos src parts → ∀ c ∈ src.head?, Text.isBlank c = false ∧ c ≠ '}'
  | _, _, .nil => by simp
  | _, _, @DerivesParts.text _ _ done _ _ _ h _ ht => by
      by_cases hd : done = []
      · subst hd; simpa using ht.head
      · rw [List.head?_append_of_ne_nil _ hd]; exact h.head
  | _, _, @DerivesParts.group _ _ done _ _ _ h hg => by
      by_cases hd : done = []
      · obtain ⟨body, rfl⟩ := hg.exists_body
        subst hd
        simp [Text.isBlank]
      · rw [List.head?_append_of_ne_nil _ hd]; exact h.head

theorem DerivesNodes.src_eq_nil_iff {room : ℕ} {src : List Char} {nodes : List Expr}
    (h : DerivesNodes room src nodes) : src = [] ↔ nodes = [] := by
  cases h with
  | nil => simp
  | run _ _ hne _ => simp [hne]
  | group _ hg =>
      obtain ⟨body, rfl⟩ := hg.exists_body
      simp

end CacheKeys.Template
