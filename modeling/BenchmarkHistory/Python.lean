import BenchmarkHistory.Float

/-! The part of the Python runtime the two scripts rely on: the `str` predicates
they call, `float()` on a cell, and the rows `csv.DictReader` yields. Text is
handled as lists of characters, so every definition here evaluates. -/

namespace BenchmarkHistory

/-- `str.isspace` on one character: what `str.strip` removes and what `float()`
skips around a number. -/
def isSpace (c : Char) : Bool :=
  let n := c.toNat
  (0x09 ≤ n && n ≤ 0x0D) || (0x1C ≤ n && n ≤ 0x20) || n == 0x85 || n == 0xA0 || n == 0x1680 ||
    (0x2000 ≤ n && n ≤ 0x200A) || n == 0x2028 || n == 0x2029 || n == 0x202F || n == 0x205F ||
    n == 0x3000

/-- `not text.strip()`. -/
def isBlank (text : String) : Bool := text.toList.all isSpace

/-- `str.lower` on the ASCII letters. Every other character that Python lowers
lowers to a non-ASCII text (the Kelvin sign aside, which gives `k`), so a
comparison of the result with `"dataset"` or `"main"` is decided as in Python. -/
def lower (text : String) : String := ⟨text.toList.map Char.toLower⟩

/-- `text.endswith(suffix)`. -/
def endsWith (text suffix : String) : Bool := suffix.toList.isSuffixOf text.toList

/-- `part in text`, which is also pandas' `str.contains(part)` for a part
without regular-expression characters. -/
def contains (text part : String) : Bool := text.toList.tails.any part.toList.isPrefixOf

/-- Python's `float()` on a text cell: the double it returns, `nan` and the
infinities included, or `none` where it raises `ValueError`. It strips
whitespace first, so whitespace alone is never a number. -/
structure FloatParser where
  parse : String → Option PyFloat
  parse_blank : ∀ text, isBlank text = true → parse text = none

theorem not_isDigit_of_isSpace {c : Char} (space : isSpace c = true) : c.isDigit = false := by
  have digit : c.isDigit = (48 ≤ c.toNat && c.toNat ≤ 57) := by
    simp [Char.isDigit, Char.le_def, UInt32.le_def, Char.toNat]; rfl
  rw [digit]
  simp only [isSpace] at space
  revert space
  generalize c.toNat = n
  simp only [Bool.or_eq_true, Bool.and_eq_true, decide_eq_true_eq, beq_iff_eq, Bool.and_eq_false_iff,
    decide_eq_false_iff_not]
  omega

/-- The number a nonempty run of decimal digits spells. -/
def digitsValue : List Char → Option ℕ
  | [] => none
  | c :: cs =>
    if (c :: cs).all Char.isDigit then some ((c :: cs).foldl (fun n d => 10 * n + (d.toNat - 48)) 0)
    else none

theorem digitsValue_of_blank : ∀ {cs : List Char}, cs.all isSpace = true → digitsValue cs = none
  | [], _ => rfl
  | c :: cs, blank => by
    have first : c.isDigit = false := not_isDigit_of_isSpace (by simp_all)
    simp [digitsValue, first]

/-- `float()` on integer text, an optional `-` and decimal digits, where it
agrees with Python; it stands for `float()` in the examples. -/
def integerFloat : FloatParser where
  parse text :=
    match text.toList with
    | '-' :: digits => (digitsValue digits).map fun n => -PyFloat.ofNat n
    | digits => (digitsValue digits).map PyFloat.ofNat
  parse_blank text blank := by
    unfold isBlank at blank
    dsimp only
    split
    · next digits minus => rw [minus] at blank; simp [isSpace] at blank
    · rw [digitsValue_of_blank blank]; rfl

/-- The exceptions the scripts can raise: those met while loading one file,
and the `OSError` of a file that cannot be written and the `ValueError` of
matplotlib met while plotting. -/
inductive PyError
  | keyError (key : String)
  | typeError
  | attributeError
  | readError
  | fileError (name : String)
  | valueError (message : String)
  deriving DecidableEq, Repr

/-- A row as `csv.DictReader` yields it: the header's columns and their cells in
header order, `none` being the `restval` of a short row's missing cells, then a
long row's surplus cells, which Python keeps as a list under the key `None`. -/
structure Row where
  cells : List (String × Option String)
  rest : List String
  deriving DecidableEq, Repr

/-- `d[key] = value` on a dict: a key already present keeps its place. -/
def dictSet {β : Type} (d : List (String × β)) (key : String) (value : β) : List (String × β) :=
  if d.any (·.1 == key) then d.map fun entry => if entry.1 = key then (key, value) else entry
  else d ++ [(key, value)]

theorem nodup_keys_dictSet {β : Type} {d : List (String × β)} (nodup : (d.map (·.1)).Nodup) (key : String)
    (value : β) : ((dictSet d key value).map (·.1)).Nodup := by
  unfold dictSet
  split
  · rw [List.map_map]
    convert nodup using 1
    refine List.map_congr_left fun entry _ => ?_
    by_cases same : entry.1 = key <;> simp [same]
  · next absent =>
    simp only [List.any_eq_true, beq_iff_eq, not_exists, not_and] at absent
    rw [List.map_append]
    exact List.pairwise_append.mpr ⟨nodup, List.pairwise_singleton _ _, by simpa using absent⟩

theorem nodup_keys_foldl_dictSet {β γ : Type} (key : γ → String) (value : γ → β) :
    ∀ (entries : List γ) (d : List (String × β)), (d.map (·.1)).Nodup →
      ((entries.foldl (fun d entry => dictSet d (key entry) (value entry)) d).map (·.1)).Nodup
  | [], _, nodup => nodup
  | _ :: entries, _, nodup =>
    nodup_keys_foldl_dictSet key value entries _ (nodup_keys_dictSet nodup _ _)

theorem lookup_map_replace {β : Type} (d : List (String × β)) (key : String) (value : β) {k : String}
    (other : k ≠ key) : (d.map fun entry => if entry.1 = key then (key, value) else entry).lookup k = d.lookup k := by
  induction d with
  | nil => rfl
  | cons entry d ih =>
    obtain ⟨name, old⟩ := entry
    rw [List.map_cons]
    by_cases here : name = key
    · subst here
      rw [if_pos rfl]
      simp [List.lookup_cons, beq_false_of_ne other, ih]
    · rw [if_neg here]
      simp [List.lookup_cons, ih]

theorem lookup_map_replace_self {β : Type} (d : List (String × β)) (key : String) (value : β)
    (present : d.any (·.1 == key) = true) :
    (d.map fun entry => if entry.1 = key then (key, value) else entry).lookup key = some value := by
  induction d with
  | nil => cases present
  | cons entry d ih =>
    obtain ⟨name, old⟩ := entry
    rw [List.map_cons]
    by_cases here : name = key
    · subst here
      rw [if_pos rfl]
      simp [List.lookup_cons]
    · rw [if_neg here]
      have rest : d.any (·.1 == key) = true := by simpa [here] using present
      simp [List.lookup_cons, beq_false_of_ne (Ne.symm here), ih rest]

theorem lookup_append_absent {β : Type} (d : List (String × β)) (key : String) (value : β) (k : String)
    (absent : ¬d.any (·.1 == key) = true) :
    (d ++ [(key, value)]).lookup k = if k = key then some value else d.lookup k := by
  induction d with
  | nil => by_cases same : k = key <;> simp [List.lookup_cons, List.lookup_nil, same, beq_false_of_ne]
  | cons entry d ih =>
    obtain ⟨name, old⟩ := entry
    have other : name ≠ key := fun same => absent (by simp [same])
    have rest : ¬d.any (·.1 == key) = true := fun inRest => absent (by simp [List.any_cons, inRest])
    by_cases same : k = name
    · subst same; simp [List.lookup_cons, other]
    · simp [List.lookup_cons, beq_false_of_ne same, ih rest]

theorem lookup_dictSet {β : Type} (d : List (String × β)) (key : String) (value : β) (k : String) :
    (dictSet d key value).lookup k = if k = key then some value else d.lookup k := by
  unfold dictSet
  split
  · next present =>
    by_cases same : k = key
    · subst same; rw [if_pos rfl, lookup_map_replace_self d k value present]
    · rw [if_neg same, lookup_map_replace d key value same]
  · next absent => exact lookup_append_absent d key value k absent

theorem lookup_foldl_dictSet {β : Type} (f : String → Option β) (k : String) :
    ∀ (entries : List (String × β)) (d : List (String × β)), (∀ entry ∈ entries, f entry.1 = some entry.2) →
      (entries.foldl (fun d entry => dictSet d entry.1 entry.2) d).lookup k =
        if k ∈ entries.map Prod.fst then f k else d.lookup k
  | [], _, _ => rfl
  | entry :: entries, d, agree => by
    rw [List.foldl_cons, lookup_foldl_dictSet f k entries _ fun other member => agree other (List.mem_cons_of_mem _ member),
      lookup_dictSet]
    by_cases later : k ∈ entries.map Prod.fst
    · simp [later]
    · by_cases here : k = entry.1
      · simp [later, here, agree entry (List.mem_cons_self _ _)]
      · simp [later, here]

/-- One `__next__` of `csv.DictReader` on a non-blank record. -/
def Row.ofRecord (fieldnames record : List String) : Row :=
  let cells := (fieldnames.zip record).foldl (fun d entry => dictSet d entry.1 (some entry.2)) []
  if fieldnames.length < record.length then ⟨cells, record.drop fieldnames.length⟩
  else ⟨(fieldnames.drop record.length).foldl (fun d key => dictSet d key none) cells, []⟩

/-- `row[key]` for a text key: `none` when the row has no such key. -/
def Row.find? (row : Row) (key : String) : Option (Option String) := row.cells.lookup key

/-- `row.get(key)`: `None` both for a missing key and for a missing cell. -/
def Row.get (row : Row) (key : String) : Option String := (row.find? key).join

/-- Python's truth value of a text or `None`. -/
def truthy : Option String → Bool
  | some text => text != ""
  | none => false

/-- Python's `first or second` on texts and `None`. -/
def pyOr (first second : Option String) : Option String := if truthy first then first else second

/-- A file as `csv.reader` reads it: the records it yields, header first, and
whether reading raises after the last of them. A file that cannot be opened
is `⟨[], true⟩`. -/
structure CsvFile where
  records : List (List String)
  raises : Bool
  deriving DecidableEq, Repr

theorem nodup_keys_ofRecord (fieldnames record : List String) :
    ((Row.ofRecord fieldnames record).cells.map (·.1)).Nodup := by
  have cells := nodup_keys_foldl_dictSet Prod.fst (some ·.2) (fieldnames.zip record) [] List.nodup_nil
  unfold Row.ofRecord
  split
  · exact cells
  · exact nodup_keys_foldl_dictSet id (fun _ => none) _ _ cells

/-- The rows `csv.DictReader` yields: the first record names the columns and
blank records are skipped. -/
def CsvFile.rows (file : CsvFile) : List Row :=
  match file.records with
  | [] => []
  | fieldnames :: records => (records.filter (!·.isEmpty)).map (Row.ofRecord fieldnames)

/-- A `for` loop whose body may raise: the body runs on each element in turn and
the first exception ends the loop, with the state as the body left it. -/
def forRaising {σ α : Type} (body : σ → α → σ × Option PyError) : σ → List α → σ × Option PyError
  | state, [] => (state, none)
  | state, item :: items =>
    match body state item with
    | (next, none) => forRaising body next items
    | raised => raised

section forRaising
variable {σ α : Type} (body : σ → α → σ × Option PyError)

@[simp] theorem forRaising_nil (state : σ) : forRaising body state [] = (state, none) := rfl

theorem forRaising_cons (state : σ) (item : α) (items : List α) :
    forRaising body state (item :: items) =
      if (body state item).2 = none then forRaising body (body state item).1 items
      else body state item := by
  rcases h : body state item with ⟨next, _ | error⟩ <;> simp [forRaising, h]

/-- A property every run of the body keeps holds of the loop's final state,
whether or not an exception ended it. -/
theorem forRaising_invariant (holds : σ → Prop)
    (keeps : ∀ state item, holds state → holds (body state item).1) :
    ∀ (items : List α) (state : σ), holds state → holds (forRaising body state items).1
  | [], _, start => start
  | item :: items, state, start => by
    rw [forRaising_cons]
    split
    · exact forRaising_invariant holds keeps items _ (keeps state item start)
    · exact keeps state item start

/-- Two loop bodies that reach the same state and raise together on every item
of the list give the same final state and raise together. -/
theorem forRaising_simulation {τ : Type} (other : τ → α → τ × Option PyError) (relate : σ → τ → Prop)
    (items : List α)
    (step : ∀ state state' item, item ∈ items → relate state state' →
      relate (body state item).1 (other state' item).1 ∧
      ((body state item).2 = none ↔ (other state' item).2 = none)) :
    ∀ (state : σ) (state' : τ), relate state state' →
      relate (forRaising body state items).1 (forRaising other state' items).1 ∧
      ((forRaising body state items).2 = none ↔ (forRaising other state' items).2 = none) := by
  induction items with
  | nil => exact fun _ _ related => ⟨related, by simp⟩
  | cons item items ih =>
    intro state state' related
    obtain ⟨next, same⟩ := step state state' item (List.mem_cons_self _ _) related
    rw [forRaising_cons, forRaising_cons]
    by_cases ok : (body state item).2 = none
    · simp only [ok, same.mp ok, ite_true]
      exact ih (fun s s' i member => step s s' i (List.mem_cons_of_mem _ member)) _ _ next
    · simp only [ok, mt same.mpr ok, ite_false]
      exact ⟨next, trivial⟩

theorem forRaising_congr (other : σ → α → σ × Option PyError) (items : List α)
    (agree : ∀ state item, item ∈ items → body state item = other state item) :
    ∀ state, forRaising body state items = forRaising other state items := by
  induction items with
  | nil => exact fun _ => rfl
  | cons item items ih =>
    intro state
    rw [forRaising_cons, forRaising_cons, agree state item (List.mem_cons_self _ _),
      ih fun state item member => agree state item (List.mem_cons_of_mem _ member)]

theorem forRaising_eq_none_iff (ok : α → Prop) (items : List α)
    (raises : ∀ state item, item ∈ items → ((body state item).2 = none ↔ ok item)) :
    ∀ state, (forRaising body state items).2 = none ↔ ∀ item ∈ items, ok item := by
  induction items with
  | nil => simp
  | cons item items ih =>
    intro state
    have first := raises state item (List.mem_cons_self _ _)
    have rest := ih fun state item member => raises state item (List.mem_cons_of_mem _ member)
    rw [forRaising_cons, List.forall_mem_cons]
    by_cases ok : (body state item).2 = none
    · simp only [ok, ite_true, rest, first.mp ok, true_and]
    · simp only [ok, ite_false, ← first, false_and]

theorem forRaising_eq_foldl (items : List α) (ok : ∀ state item, item ∈ items → (body state item).2 = none) :
    ∀ state, forRaising body state items = (items.foldl (fun state item => (body state item).1) state, none) := by
  induction items with
  | nil => exact fun _ => rfl
  | cons item items ih =>
    intro state
    rw [forRaising_cons, if_pos (ok state item (List.mem_cons_self _ _)), List.foldl_cons,
      ih fun state item member => ok state item (List.mem_cons_of_mem _ member)]

end forRaising

end BenchmarkHistory
