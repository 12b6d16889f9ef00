import RegionSync.Proofs.Layout
import RegionSync.Proofs.Trimming
import RegionSync.Proofs.Words

set_option autoImplicit false

/-! # Fields written out and read back

The plainest way to declare a field takes two lines, an attribute and a declaration of the form
`private TYPE NAME;`. Written out with a type and a name that hold no white space and no semicolon,
the declaration is read back as the field it was written for (`Declared.wellFormed_item`). Lines that
are written one after the other, each with its ending, are the lines of the text (`Text.lines_ended`).
-/

namespace RegionSync

/-! ## Texts written line by line -/

namespace Text

variable {line : List Char} {chunks all : List (List Char)}

/-- Some lines, each of them ended. -/
def ended (chunks : List (List Char)) : List Char := chunks.flatMap (· ++ ['\n'])

@[simp] theorem ended_nil : ended [] = [] := rfl

@[simp] theorem ended_cons (chunk : List Char) (chunks : List (List Char)) :
    ended (chunk :: chunks) = chunk ++ ['\n'] ++ ended chunks := by
  simp [ended]

theorem ended_append (front back : List (List Char)) :
    ended (front ++ back) = ended front ++ ended back :=
  List.flatMap_append

theorem lines_ended (h : ∀ chunk ∈ chunks, '\n' ∉ chunk) :
    lines (ended chunks) = chunks.map (· ++ ['\n']) := by
  induction chunks with
  | nil => rfl
  | cons chunk chunks ih =>
      rw [ended_cons, lines_append_newline (h chunk (by simp)),
        ih (List.forall_mem_of_forall_mem_cons h), List.map_cons]

theorem AreLines.isLine (h : AreLines all) (hmem : line ∈ all) : IsLine line := by
  induction all with
  | nil => cases hmem
  | cons first rest ih =>
      obtain ⟨hfirst, -, hrest⟩ := h
      rcases List.mem_cons.mp hmem with rfl | hmem
      · exact hfirst
      · exact ih hrest hmem

theorem IsLine.not_mem_dropLast (h : IsLine line) : '\n' ∉ line.dropLast := by
  rcases h.cases with ⟨front, hfront, rfl⟩ | ⟨hnone, -⟩
  · rwa [List.dropLast_concat]
  · exact fun hc => hnone (List.mem_of_mem_dropLast hc)

theorem IsLine.not_mem_trim (h : IsLine line) : '\n' ∉ trim line := by
  rcases h.cases with ⟨front, hfront, rfl⟩ | ⟨hnone, -⟩
  · rw [trim_append_blank front (by decide)]
    exact fun hc => hfront ((isInfix_trim front).mem hc)
  · exact fun hc => hnone ((isInfix_trim line).mem hc)

theorem dropEnd?_append (front ending : List Char) :
    dropEnd? ending (front ++ ending) = some front := by
  simp [dropEnd?, endsWith]

end Text

/-! ## Fields as a file declares them -/

/-- A field of either kind. -/
inductive Declared where
  | state (field : StateField)
  | prop (field : PropField)
deriving DecidableEq

namespace Declared

/-- The attribute that stands above the declaration. -/
def attr (protocol : Protocol) : Declared → List Char
  | state _ => protocol.stateAttribute.toList
  | prop _ => protocol.propAttribute.toList

/-- The type of a state as its declaration has it. -/
def wrapped (ty : List Char) : List Char := "State<".toList ++ ty ++ ">".toList

/-- The type as the declaration has it. -/
def type : Declared → List Char
  | state field => wrapped field.ty.toList
  | prop field => field.ty.toList

/-- The name of the field. -/
def name : Declared → List Char
  | state field => field.name.toList
  | prop field => field.name.toList

/-- The line that declares the field, without its ending. -/
def declaration (declared : Declared) : List Char :=
  Declaration.visibility ++ (declared.type ++ ' ' :: (declared.name ++ [';']))

example : (state ⟨"int", "hp"⟩).declaration = "private State<int> hp;".toList ∧
    (prop ⟨"bool", "on"⟩).declaration = "private bool on;".toList := by decide

/-- The state that is declared, if it is one. -/
def states : Declared → List StateField
  | state field => [field]
  | prop _ => []

/-- The prop that is declared, if it is one. -/
def props : Declared → List PropField
  | state _ => []
  | prop field => [field]

/-- What a type or a name looks like: it is not empty, and free of white space and semicolons. -/
def IsPart (word : List Char) : Prop := word ≠ [] ∧ ∀ c ∈ word, Text.isBlank c = false ∧ c ≠ ';'

instance (word : List Char) : Decidable (IsPart word) :=
  haveI := List.decidableBAll (fun c => Text.isBlank c = false ∧ c ≠ ';') word
  inferInstanceAs (Decidable (_ ∧ _))

/-- The type, a state's without its wrapper, and the name are as they should be. -/
def WellFormed : Declared → Prop
  | state field => IsPart field.ty.toList ∧ IsPart field.name.toList
  | prop field => IsPart field.ty.toList ∧ IsPart field.name.toList

/-- The lines of the field, without their endings. -/
def chunks (protocol : Protocol) (declared : Declared) : List (List Char) :=
  [declared.attr protocol, declared.declaration]

/-- The field as an item of a file. -/
def item (protocol : Protocol) : Declared → Item
  | state field =>
    .state (protocol.stateAttribute.toList ++ ['\n']) ((state field).declaration ++ ['\n']) field
  | prop field =>
    .prop (protocol.propAttribute.toList ++ ['\n']) ((prop field).declaration ++ ['\n']) field

variable {protocol : Protocol} {declared : Declared}

theorem lines_item (protocol : Protocol) (declared : Declared) :
    (declared.item protocol).lines = (declared.chunks protocol).map (· ++ ['\n']) := by
  cases declared <;> rfl

theorem states_item (protocol : Protocol) (declared : Declared) :
    (declared.item protocol).states = declared.states := by
  cases declared <;> rfl

theorem props_item (protocol : Protocol) (declared : Declared) :
    (declared.item protocol).props = declared.props := by
  cases declared <;> rfl

theorem IsPart.isWord {word : List Char} (h : IsPart word) : Text.IsWord word :=
  ⟨h.1, fun c hc => (h.2 c hc).1⟩

theorem IsPart.append {front back : List Char} (hfront : IsPart front) (hback : IsPart back) :
    IsPart (front ++ back) :=
  ⟨List.append_ne_nil_of_left_ne_nil hfront.1 back, List.forall_mem_append.mpr ⟨hfront.2, hback.2⟩⟩

theorem IsPart.wrapped {word : List Char} (h : IsPart word) : IsPart (wrapped word) := by
  have hstart : IsPart "State<".toList := by decide
  have hend : IsPart ">".toList := by decide
  exact (hstart.append h).append hend

theorem isPart_type (h : declared.WellFormed) : IsPart declared.type := by
  cases declared with
  | state field => exact h.1.wrapped
  | prop field => exact h.1

theorem isPart_name (h : declared.WellFormed) : IsPart declared.name := by
  cases declared <;> exact h.2

theorem not_mem_declaration (h : declared.WellFormed) : '\n' ∉ declared.declaration := by
  have hstart : '\n' ∉ Declaration.visibility := by decide
  have htype := (isPart_type h).isWord.noBreak.not_mem
  have hname := (isPart_name h).isWord.noBreak.not_mem
  simp [declaration, hstart, htype, hname]

/-- The line starts with a keyword and ends with a semicolon. -/
theorem exists_declaration_eq (declared : Declared) :
    ∃ middle, declared.declaration = 'p' :: (middle ++ [';']) := by
  have hstart : Declaration.visibility = 'p' :: Declaration.visibility.tail := by decide
  refine ⟨Declaration.visibility.tail ++ (declared.type ++ ' ' :: declared.name), ?_⟩
  rw [declaration, hstart]
  simp only [List.tail_cons, List.cons_append, List.append_assoc]

/-- The line stays as it is when it is trimmed, the ending aside. -/
theorem trim_declaration (declared : Declared) :
    Text.trim (declared.declaration ++ ['\n']) = declared.declaration := by
  obtain ⟨middle, hmiddle⟩ := declared.exists_declaration_eq
  rw [Text.trim_append_blank _ (by decide), hmiddle]
  apply Text.trim_eq_self
  · intro c hc
    obtain rfl : 'p' = c := by simpa using hc
    decide
  · intro c hc
    rw [← List.cons_append, List.getLast?_concat] at hc
    obtain rfl : ';' = c := by simpa using hc
    decide

/-- The declaration splits into the type and the name. -/
theorem split_declaration (h : declared.WellFormed) (number : Nat) :
    Declaration.split number declared.declaration = .ok (declared.type, declared.name) := by
  refine Declaration.split_eq_ok_iff.mpr ⟨_, rfl, ?_⟩
  have hkept : ∀ c ∈ declared.type ++ ' ' :: declared.name, (c != ';') = true := by
    simp only [List.forall_mem_append, List.forall_mem_cons, bne_iff_ne]
    exact ⟨fun c hc => ((isPart_type h).2 c hc).2, by decide, fun c hc => ((isPart_name h).2 c hc).2⟩
  -- the semicolon that ends the declaration is the first one in it
  have htake : (declared.type ++ ' ' :: (declared.name ++ [';'])).takeWhile (· != ';') =
      declared.type ++ ' ' :: declared.name := by
    rw [← List.cons_append, ← List.append_assoc, List.takeWhile_append_of_pos hkept]
    simp
  rw [htake, Text.words_pair (isPart_type h).isWord (isPart_name h).isWord]

theorem innerType?_wrapped {ty : List Char} (h : ty ≠ []) :
    Declaration.innerType? (wrapped ty) = some ty := by
  obtain ⟨c, inner, rfl⟩ := List.exists_cons_of_ne_nil h
  unfold Declaration.innerType? wrapped
  rw [List.append_assoc, Text.dropStart?_append, Option.bind_some, Text.dropEnd?_append]

/-- What is written is read back, provided that the attribute is met. -/
theorem wellFormed_item (h : declared.WellFormed)
    (hkind : protocol.lineKind (declared.attr protocol ++ ['\n']) = (declared.item protocol).kind) :
    (declared.item protocol).WellFormed protocol := by
  have hsplit := split_declaration h 0
  cases declared with
  | state field =>
      refine ⟨hkind, 0, ?_⟩
      rw [trim_declaration]
      exact Declaration.readState_eq_ok_iff.mpr
        ⟨_, _, _, hsplit, innerType?_wrapped h.1.1, by simp [name]⟩
  | prop field =>
      refine ⟨hkind, 0, ?_⟩
      rw [trim_declaration]
      exact Declaration.readProp_eq_ok_iff.mpr ⟨_, _, hsplit, by simp [type, name]⟩

end Declared

end RegionSync
