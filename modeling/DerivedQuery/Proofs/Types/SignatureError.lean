import DerivedQuery.Proofs.Types.SignatureReading
import Mathlib.Order.Basic

/-!
# Where a text stops being a type

No reader looks further than at the first character of what it leaves (`LooksAhead`). A failure is
therefore decided by the text up to the character that is reported, and a failure at the end is one
that came only after the whole text was read: whatever cannot go on the text is then reported in
its place.

The bound on the nesting is never met either (`readType_of_length_lt`), so a failure is always one
of the text.

> `readsGrammar`: what reading any text as a type comes to.
-/

namespace DerivedQuery.Types

namespace TypeRef

open DerivedQuery.Unicode

/-! ## Readers that look one character ahead -/

/-- Whether a character is neither blank nor part of a terminal. -/
structure IsForeign (c : Char) : Prop where
  not_blank : isBlank c = false
  not_nameChar : isNameChar c = false
  not_sign : c ∉ signs

/-- Whether a text begins like another one: with its first character, or with a foreign one where
the other has nothing left. -/
def BeginsLike (text' text : List Char) : Prop :=
  ∃ c behind, text' = c :: behind ∧ (text.head? = some c ∨ text = [] ∧ IsForeign c)

theorem BeginsLike.append {rest' rest taken text : List Char} (h : BeginsLike rest' rest)
    (htext : text = taken ++ rest) : BeginsLike (taken ++ rest') text := by
  subst htext
  cases taken with
  | nil => exact h
  | cons c taken => exact ⟨c, taken ++ rest', rfl, .inl rfl⟩

/-- What no foreign character is does not come in front by going on alike. -/
theorem BeginsLike.head_not {text' text : List Char} (h : BeginsLike text' text)
    {p : Char → Bool} (htext : ∀ c, text.head? = some c → p c = false)
    (hforeign : ∀ c, IsForeign c → p c = false) : ∀ c, text'.head? = some c → p c = false := by
  obtain ⟨c, behind, rfl, hhead | ⟨-, hc⟩⟩ := h
  · rintro _ ⟨⟩
    exact htext c hhead
  · rintro _ ⟨⟩
    exact hforeign c hc

/-- Blanks stay in front of a text that begins like what they were skipped for. -/
theorem BeginsLike.skipBlanks_append {rest text : List Char}
    (h : BeginsLike rest (skipBlanks text)) :
    skipBlanks (text.takeWhile isBlank ++ rest) = rest := by
  rw [skipBlanks, List.dropWhile_append_of_pos fun _ => List.mem_takeWhile_imp]
  exact skipBlanks_of_head (h.head_not (head_dropWhile isBlank text) fun _ h => h.not_blank)

section

variable {α β : Type}

/-- What is left of the text behind what was read, or from the failure on. -/
def left : Except (List Char) (α × List Char) → List Char
  | .error rest => rest
  | .ok (_, rest) => rest

/-- The same outcome with something else left of the text. -/
def leaving (rest : List Char) :
    Except (List Char) (α × List Char) → Except (List Char) (α × List Char)
  | .error _ => .error rest
  | .ok (a, _) => .ok (a, rest)

/-- Whether a reader takes a front of the text and looks at the first character alone of the
rest. -/
def LooksAhead (read : List Char → Except (List Char) (α × List Char)) : Prop :=
  ∀ text, ∃ taken, text = taken ++ left (read text) ∧ ∀ rest', BeginsLike rest' (left (read text)) →
    read (taken ++ rest') = leaving rest' (read text)

namespace LooksAhead

variable {read yes no : List Char → Except (List Char) (α × List Char)}

theorem length_le (h : LooksAhead read) {text rest : List Char} {a : α}
    (hread : read text = .ok (a, rest)) : rest.length ≤ text.length := by
  obtain ⟨taken, htext, -⟩ := h text
  rw [hread] at htext
  rw [htext, List.length_append]
  exact Nat.le_add_left _ _

theorem failure : LooksAhead (.error : List Char → Except (List Char) (α × List Char)) :=
  fun _ => ⟨[], rfl, fun _ _ => rfl⟩

theorem value (a : α) : LooksAhead fun rest => .ok (a, rest) :=
  fun _ => ⟨[], rfl, fun _ _ => rfl⟩

theorem ifSign {sign : Char} (hsign : sign ∈ signs) (hyes : LooksAhead yes)
    (hno : LooksAhead no) : LooksAhead (ifSign sign yes no) := by
  intro text
  cases text with
  | nil =>
    obtain ⟨taken, htext, hrest⟩ := hno []
    obtain ⟨rfl, hleft⟩ := List.append_eq_nil_iff.mp htext.symm
    refine ⟨[], htext, fun rest' h => ?_⟩
    have hlike := h
    rw [show left (TypeRef.ifSign sign yes no []) = [] from hleft] at hlike
    obtain ⟨c, behind, rfl, hhead | ⟨-, hforeign⟩⟩ := hlike
    · cases hhead
    · -- what comes at the end of the text is foreign, so the other way is taken again
      have hne : c ≠ sign := by
        rintro rfl
        exact hforeign.not_sign hsign
      exact (if_neg hne).trans (hrest _ h)
  | cons c text =>
    by_cases hc : c = sign
    · obtain ⟨taken, htext, hrest⟩ := hyes text
      rw [show TypeRef.ifSign sign yes no (c :: text) = yes text from if_pos hc]
      exact ⟨c :: taken, congrArg _ htext, fun rest' h => (if_pos hc).trans (hrest rest' h)⟩
    · obtain ⟨taken, htext, hrest⟩ := hno (c :: text)
      rw [show TypeRef.ifSign sign yes no (c :: text) = no (c :: text) from if_neg hc]
      refine ⟨taken, htext, fun rest' h => ?_⟩
      -- the first character is the same, whether it is taken or left
      obtain ⟨d, behind, hcons, hhead | ⟨hnil, -⟩⟩ := h.append htext
      · cases hhead
        have heq := hrest rest' h
        rw [hcons] at heq ⊢
        exact (if_neg hc).trans heq
      · cases hnil

theorem blanks (h : LooksAhead read) : LooksAhead fun text => read (skipBlanks text) := by
  intro text
  obtain ⟨taken, htext, hrest⟩ := h (skipBlanks text)
  refine ⟨text.takeWhile isBlank ++ taken, ?_, fun rest' hlike => ?_⟩
  · rw [List.append_assoc, ← htext]
    exact List.takeWhile_append_dropWhile.symm
  · dsimp only
    rw [List.append_assoc, (hlike.append htext).skipBlanks_append]
    exact hrest rest' hlike

theorem ifNext {sign : Char} (hsign : sign ∈ signs) (hyes : LooksAhead yes)
    (hno : LooksAhead no) : LooksAhead (ifNext sign yes no) :=
  (hyes.ifSign hsign hno).blanks

theorem onName {next : String → List Char → Except (List Char) (α × List Char)}
    (h : ∀ name, LooksAhead (next name)) : LooksAhead (onName next) := by
  intro text
  obtain ⟨taken, htext, hrest⟩ := h (readName text).1 (readName text).2
  refine ⟨(readName text).1.toList ++ taken, ?_, fun rest' hlike => ?_⟩
  · rw [List.append_assoc]
    exact (readName_append_rest text).symm.trans (congrArg _ htext)
  · have hfront := BeginsLike.append hlike htext
    have hname : readName ((readName text).1.toList ++ taken ++ rest') =
        ((readName text).1, taken ++ rest') := by
      rw [List.append_assoc]
      exact readName_append (readName_chars text)
        (hfront.head_not (nameEnds_readName text) fun _ h => h.not_nameChar)
    rw [TypeRef.onName, hname]
    exact hrest rest' hlike

theorem ite {p : Prop} [Decidable p] (hyes : LooksAhead yes) (hno : LooksAhead no) :
    LooksAhead fun text => if p then yes text else no text := by
  by_cases hp : p
  · simpa only [if_pos hp] using hyes
  · simpa only [if_neg hp] using hno

theorem bind {read' : α → List Char → Except (List Char) (β × List Char)} (h : LooksAhead read)
    (h' : ∀ a, LooksAhead (read' a)) :
    LooksAhead fun text => read text >>= fun found => read' found.1 found.2 := by
  intro text
  obtain ⟨taken, htext, hrest⟩ := h text
  dsimp only
  cases hread : read text with
  | error rest =>
    rw [hread] at htext hrest
    refine ⟨taken, htext, fun rest' hlike => ?_⟩
    rw [hrest rest' hlike]
    rfl
  | ok found =>
    obtain ⟨a, middle⟩ := found
    obtain ⟨taken', hmiddle, hrest'⟩ := h' a middle
    rw [hread] at htext hrest
    refine ⟨taken ++ taken', ?_, fun rest' hlike => ?_⟩
    · rw [List.append_assoc]
      exact htext.trans (congrArg _ hmiddle)
    · rw [List.append_assoc, hrest _ (BeginsLike.append hlike hmiddle)]
      exact hrest' rest' hlike

end LooksAhead

end

/-! ## The readers look one character ahead -/

theorem looksAhead_readBrackets (steps : Nat) (type : TypeRef) :
    LooksAhead (readBrackets steps type) := by
  induction steps generalizing type with
  | zero => exact .value type
  | succ steps ih =>
    rw [funext (readBrackets_succ steps type)]
    exact .ifNext (by decide) (.ifNext (by decide) (ih type.array) .failure) (.value type)

theorem looksAhead_readers (steps : Nat) :
    LooksAhead (readType steps) ∧ LooksAhead (readArguments steps) ∧
      LooksAhead (readMoreArguments steps) := by
  induction steps with
  | zero => exact ⟨.failure, .failure, .failure⟩
  | succ steps ih =>
    obtain ⟨ihType, ihArguments, ihMore⟩ := ih
    have hseveral : LooksAhead (readSeveral steps) :=
      ihType.bind fun _ => ihMore.bind fun _ => .value _
    have hbound : LooksAhead (onName (readBound steps)) :=
      .onName fun _ => (LooksAhead.value _).ite (ihType.ite .failure)
    have hbrackets := looksAhead_readBrackets steps
    have hnamed : LooksAhead (onName (readNamed steps)) :=
      .onName fun name => .ite .failure <| .ite (hbrackets .void) <|
        .ite (hbrackets (.primitive name)) <| ihArguments.bind fun args =>
          hbrackets (.declared name args)
    rw [funext (readType_succ steps), funext (readArguments_succ steps),
      funext (readMoreArguments_succ steps)]
    exact ⟨.ifNext (by decide) hbound.blanks hnamed, .ifNext (by decide) hseveral (.value []),
      .ifNext (by decide) hseveral (.ifNext (by decide) (.value []) .failure)⟩

/-! ## The bound on the nesting is not met -/

section

variable {α β : Type}

theorem ifNext_congr {sign : Char} {yes yes' no no' : List Char → α} {text : List Char}
    (hyes : ∀ rest, rest.length < text.length → yes rest = yes' rest)
    (hno : ∀ rest, rest.length ≤ text.length → no rest = no' rest) :
    ifNext sign yes no text = ifNext sign yes' no' text := by
  have hle := skipBlanks_length_le text
  unfold ifNext
  cases htext : skipBlanks text with
  | nil => exact hno [] (Nat.zero_le _)
  | cons c rest =>
    rw [htext, List.length_cons] at hle
    dsimp only [ifSign]
    rw [hyes rest hle, hno (c :: rest) hle]

theorem LooksAhead.bind_congr {read : List Char → Except (List Char) (α × List Char)}
    (h : LooksAhead read) {next next' : α → List Char → Except (List Char) (β × List Char)}
    {text : List Char}
    (hnext : ∀ a rest, rest.length ≤ text.length → next a rest = next' a rest) :
    (read text >>= fun found => next found.1 found.2) =
      read text >>= fun found => next' found.1 found.2 := by
  cases hread : read text with
  | error rest => rfl
  | ok found => exact hnext found.1 found.2 (h.length_le hread)

theorem onName_congr {next next' : String → List Char → α} {text : List Char}
    (hempty : ∀ rest, next "" rest = next' "" rest)
    (hnext : ∀ name rest, rest.length < text.length → next name rest = next' name rest) :
    onName next text = onName next' text := by
  unfold onName
  by_cases hname : (readName text).1 = ""
  · rw [hname]
    exact hempty _
  · have hlen := congrArg List.length (readName_append_rest text)
    rw [List.length_append] at hlen
    have hpos := List.length_pos_of_ne_nil (mt String.toList_eq_nil_iff.mp hname)
    exact hnext _ _ (by omega)

end

theorem readBrackets_stable {steps : Nat} {text : List Char} (h : text.length < steps)
    (type : TypeRef) : readBrackets (steps + 1) type text = readBrackets steps type text := by
  induction steps generalizing text type with
  | zero => exact absurd h (Nat.not_lt_zero _)
  | succ steps ih =>
    rw [readBrackets_succ (steps + 1), readBrackets_succ steps]
    refine ifNext_congr (fun inner hinner => ifNext_congr (fun rest hrest => ?_) fun _ _ => rfl)
      fun _ _ => rfl
    exact ih (by omega) type.array

/-- One step more changes nothing if there are more steps than characters already. -/
theorem readers_stable (steps : Nat) :
    (∀ text, text.length < steps → readType (steps + 1) text = readType steps text) ∧
      (∀ text, text.length < steps → readArguments (steps + 1) text = readArguments steps text) ∧
      ∀ text, text.length < steps →
        readMoreArguments (steps + 1) text = readMoreArguments steps text := by
  induction steps with
  | zero => exact ⟨nofun, nofun, nofun⟩
  | succ steps ih =>
    obtain ⟨ihType, ihArguments, ihMore⟩ := ih
    obtain ⟨hType, hArguments, hMore⟩ := looksAhead_readers steps
    have hseveral : ∀ text, text.length < steps →
        readSeveral (steps + 1) text = readSeveral steps text := by
      intro text h
      have hnext : ∀ (first : TypeRef) (rest : List Char), rest.length ≤ text.length →
          (readMoreArguments (steps + 1) rest >>= fun others =>
            (.ok (first :: others.1, others.2) : Except (List Char) (List TypeRef × List Char))) =
          readMoreArguments steps rest >>= fun others => .ok (first :: others.1, others.2) := by
        intro first rest hrest
        rw [ihMore rest (by omega)]
      unfold readSeveral
      rw [ihType text h]
      exact hType.bind_congr hnext
    have hbound : ∀ text, text.length < steps →
        onName (readBound (steps + 1)) text = onName (readBound steps) text := by
      refine fun text h => onName_congr (fun _ => rfl) fun word rest hrest => ?_
      unfold readBound
      rw [ihType rest (by omega)]
    have hnamed : ∀ text, text.length ≤ steps →
        onName (readNamed (steps + 1)) text = onName (readNamed steps) text := by
      -- an empty name fails at once, and every other one takes a character
      refine fun text h => onName_congr (fun _ => rfl) fun name rest hrest => ?_
      have hbrackets : ∀ (args : List TypeRef) (behind : List Char), behind.length ≤ rest.length →
          readBrackets (steps + 1) (.declared name args) behind =
            readBrackets steps (.declared name args) behind :=
        fun args behind hbehind => readBrackets_stable (by omega) (.declared name args)
      unfold readNamed
      rw [readBrackets_stable (by omega), readBrackets_stable (by omega),
        ihArguments rest (by omega), hArguments.bind_congr hbrackets]
    refine ⟨fun text h => ?_, fun text h => ?_, fun text h => ?_⟩
    · rw [readType_succ (steps + 1), readType_succ steps]
      refine ifNext_congr (fun rest hrest => ?_) fun rest hrest => hnamed rest (by omega)
      have hle := skipBlanks_length_le rest
      exact hbound (skipBlanks rest) (by omega)
    · rw [readArguments_succ (steps + 1), readArguments_succ steps]
      exact ifNext_congr (fun rest hrest => hseveral rest (by omega)) fun _ _ => rfl
    · rw [readMoreArguments_succ (steps + 1), readMoreArguments_succ steps]
      exact ifNext_congr (fun rest hrest => hseveral rest (by omega)) fun _ _ => rfl

/-- Every bound beyond the number of characters is as good as the next one. -/
theorem readType_of_length_lt {text : List Char} {steps steps' : Nat} (h : text.length < steps)
    (hle : steps ≤ steps') : readType steps' text = readType steps text := by
  induction steps', hle using Nat.le_induction with
  | base => rfl
  | succ n hn ih => rw [(readers_stable n).1 text (by omega), ih]

/-! ## Reading a whole text -/

/-- Checks that nothing but blanks follows a type. -/
def readEnd (type : TypeRef) (text : List Char) : Except (List Char) TypeRef :=
  match skipBlanks text with
  | [] => .ok type
  | rest => .error rest

/-- Reads a type that nothing but blanks follows. -/
def readWhole (steps : Nat) (text : List Char) : Except (List Char) TypeRef :=
  readType steps text >>= fun found => readEnd found.1 found.2

theorem readType_skipBlanks (steps : Nat) (text : List Char) :
    readType (steps + 1) (skipBlanks text) = readType (steps + 1) text := by
  rw [readType_succ, readType_succ, ifNext, ifNext, skipBlanks_skipBlanks]

theorem parse_of_blank {signature : String} (h : skipBlanks signature.toList = []) :
    parse signature = .error .empty := by
  unfold parse
  rw [h]

/-- A text that is not blank is read with any bound that is large enough. -/
theorem parse_of_not_blank {signature : String} (h : skipBlanks signature.toList ≠ []) {steps : Nat}
    (hsteps : signature.toList.length < steps) :
    parse signature = (readWhole steps signature.toList).mapError (.before signature) := by
  have hle := skipBlanks_length_le signature.toList
  have hread : readType ((skipBlanks signature.toList).length + 1) (skipBlanks signature.toList) =
      readType steps signature.toList := by
    obtain ⟨n, rfl⟩ := Nat.exists_eq_succ_of_ne_zero (Nat.ne_zero_of_lt hsteps)
    rw [← readType_skipBlanks n]
    exact (readType_of_length_lt (Nat.lt_succ_self _) (by omega)).symm
  unfold parse readWhole
  split
  next hnil => exact absurd hnil h
  · rw [hread]
    cases readType steps signature.toList with
    | error rest => rfl
    | ok found =>
      change _ = (readEnd found.1 found.2).mapError (SignatureError.before signature)
      dsimp only [readEnd]
      cases skipBlanks found.2 <;> rfl

/-- A text that fails is left from the character that is reported on, and what begins alike there
fails there. -/
theorem readWhole_error {steps : Nat} {text rest : List Char}
    (h : readWhole steps text = .error rest) :
    ∃ taken, text = taken ++ rest ∧
      ∀ rest', BeginsLike rest' rest → readWhole steps (taken ++ rest') = .error rest' := by
  obtain ⟨taken, htext, hrest⟩ := (looksAhead_readers steps).1 text
  unfold readWhole at h ⊢
  rcases bind_eq_error.mp h with hread | ⟨⟨type, middle⟩, hread, hend⟩
  · rw [hread] at htext hrest
    refine ⟨taken, htext, fun rest' hlike => ?_⟩
    rw [hrest rest' hlike]
    rfl
  · -- a type was read, and more than blanks follows
    rw [hread] at htext hrest
    dsimp only [readEnd] at hend
    split at hend
    · cases hend
    · cases hend
      refine ⟨taken ++ middle.takeWhile isBlank, ?_, fun rest' hlike => ?_⟩
      · rw [List.append_assoc]
        exact htext.trans (congrArg _ List.takeWhile_append_dropWhile.symm)
      · have hfront := hlike.append List.takeWhile_append_dropWhile.symm
        rw [List.append_assoc, hrest _ hfront]
        change readEnd type (middle.takeWhile isBlank ++ rest') = .error rest'
        rw [readEnd, hlike.skipBlanks_append]
        obtain ⟨c, behind, rfl, -⟩ := hlike
        rfl

/-- A failure is at a rest of the text, whatever the bound. -/
theorem exists_rest_of_parse_error {signature : String} {e : SignatureError}
    (h : parse signature = .error e) (hempty : e ≠ .empty) :
    ∃ rest, e = .before signature rest ∧ ∀ steps, signature.toList.length < steps →
      readWhole steps signature.toList = .error rest := by
  have hblank : skipBlanks signature.toList ≠ [] := by
    intro hnil
    rw [parse_of_blank hnil] at h
    cases h
    exact hempty rfl
  have hparse := parse_of_not_blank hblank (Nat.lt_succ_self _)
  rw [h] at hparse
  cases hread : readWhole (signature.toList.length + 1) signature.toList with
  | ok t =>
    rw [hread] at hparse
    cases hparse
  | error rest =>
    rw [hread] at hparse
    refine ⟨rest, Except.error.inj hparse, fun steps hsteps => ?_⟩
    rw [readWhole, readType_of_length_lt (Nat.lt_succ_self _) hsteps]
    exact hread

/-- A text of blanks alone fails at its end. -/
theorem readWhole_of_blank {text : List Char} (h : skipBlanks text = []) (steps : Nat) :
    readWhole (steps + 1) text = .error [] := by
  rw [readWhole, ← readType_skipBlanks, h]
  rfl

/-- A text that goes on alike where another one fails is reported there too. -/
theorem parse_of_like {signature other : String} {taken rest rest' : List Char}
    (hread : ∀ steps, signature.toList.length < steps →
      readWhole steps signature.toList = .error rest)
    (htext : signature.toList = taken ++ rest) (hother : other.toList = taken ++ rest')
    (hlike : BeginsLike rest' rest) : parse other = .error (.before other rest') := by
  have hfails : ∀ steps, signature.toList.length < steps →
      readWhole steps other.toList = .error rest' := by
    intro steps hsteps
    obtain ⟨taken', htext', hrest⟩ := readWhole_error (hread steps hsteps)
    -- the rest does not depend on the bound, and so neither does what was taken
    cases List.append_cancel_right (htext.symm.trans htext')
    rw [hother]
    exact hrest rest' hlike
  have hblank : skipBlanks other.toList ≠ [] := by
    intro hnil
    have hend := hfails (signature.toList.length + 1) (Nat.lt_succ_self _)
    rw [readWhole_of_blank hnil] at hend
    cases hend
    obtain ⟨_, _, hcons, -⟩ := hlike
    cases hcons
  have hsteps : other.toList.length < signature.toList.length + other.toList.length + 1 := by omega
  rw [parse_of_not_blank hblank hsteps, hfails _ (by omega)]
  rfl

theorem before_cons {signature : String} {taken rest : List Char} {c : Char}
    (h : signature.toList = taken ++ c :: rest) :
    SignatureError.before signature (c :: rest) = .unexpected c taken.length signature := by
  have hlen := congrArg List.length h
  rw [String.length_toList, List.length_append, List.length_cons] at hlen
  rw [SignatureError.before, hlen, Nat.add_sub_cancel]

theorem before_ne_empty (signature : String) (rest : List Char) :
    SignatureError.before signature rest ≠ .empty := by
  cases rest <;> exact fun h => by cases h

/-- Only a text of blanks alone is empty. -/
theorem parse_eq_empty_iff {signature : String} :
    parse signature = .error .empty ↔ ∀ c ∈ signature.toList, isBlank c = true := by
  rw [← List.dropWhile_eq_nil_iff]
  constructor
  · intro h
    by_contra hblank
    rw [parse_of_not_blank hblank (Nat.lt_succ_self _)] at h
    cases hread : readWhole (signature.toList.length + 1) signature.toList with
    | ok t =>
      rw [hread] at h
      cases h
    | error rest =>
      rw [hread] at h
      exact before_ne_empty signature rest (Except.error.inj h)
  · exact parse_of_blank

/-- What reading a text as a type comes to. -/
structure ReadsGrammar (signature : String) : Prop where
  /-- The texts of the grammar are read, each as the type of its tree. -/
  read : ∀ t, parse signature = .ok t ↔
    ∃ tree : SyntaxTree, Spells tree.yield signature.toList ∧ tree.type = t
  unique : ∀ tree tree' : SyntaxTree, Spells tree.yield signature.toList →
    Spells tree'.yield signature.toList → tree = tree'
  /-- More steps than characters change nothing: the reading comes to its end by itself. -/
  ends : ∀ steps, signature.length < steps →
    readType steps signature.toList = readType (signature.length + 1) signature.toList
  empty : parse signature = .error .empty ↔ ∀ c ∈ signature.toList, isBlank c = true
  /-- The character that is reported is at the place that is reported, and the text up to it
  decides. -/
  unexpected : ∀ found position text, parse signature = .error (.unexpected found position text) →
    text = signature ∧ signature.toList[position]? = some found ∧
      ∀ other : String,
        other.toList.take (position + 1) = signature.toList.take (position + 1) →
          parse other = .error (.unexpected found position other)
  /-- The end is reported when the text was read up to there: what cannot go on a text is reported
  in its place then. -/
  unexpectedEnd : ∀ text, parse signature = .error (.unexpectedEnd text) →
    text = signature ∧ ∀ c rest, IsForeign c →
      parse (signature ++ String.ofList (c :: rest)) =
        .error (.unexpected c signature.length (signature ++ String.ofList (c :: rest)))

theorem readsGrammar (signature : String) : ReadsGrammar signature where
  read _ := parse_eq_ok_iff
  unique _ _ := SyntaxTree.eq_of_spells
  ends steps h := by
    rw [← String.length_toList] at h ⊢
    exact readType_of_length_lt (Nat.lt_succ_self _) h
  empty := parse_eq_empty_iff
  unexpected found position text h := by
    obtain ⟨rest, he, hread⟩ := exists_rest_of_parse_error h nofun
    obtain ⟨taken, htext, -⟩ := readWhole_error (hread _ (Nat.lt_succ_self _))
    cases rest with
    | nil => cases he
    | cons c rest =>
      rw [before_cons htext] at he
      cases he
      refine ⟨rfl, by simp [htext], fun other hother => ?_⟩
      have hsplit : other.toList = taken ++ found :: other.toList.drop (taken.length + 1) := by
        have htake : other.toList.take (taken.length + 1) = taken ++ [found] := by
          rw [hother, htext, List.append_cons, List.take_left' (by simp)]
        have happend := List.take_append_drop (taken.length + 1) other.toList
        rw [htake, List.append_assoc] at happend
        exact happend.symm
      rw [parse_of_like hread htext hsplit ⟨found, _, rfl, .inl rfl⟩, before_cons hsplit]
  unexpectedEnd text h := by
    obtain ⟨rest, he, hread⟩ := exists_rest_of_parse_error h nofun
    obtain ⟨taken, htext, -⟩ := readWhole_error (hread _ (Nat.lt_succ_self _))
    cases rest with
    | cons c rest =>
      rw [before_cons htext] at he
      cases he
    | nil =>
      cases he
      refine ⟨rfl, fun c rest hc => ?_⟩
      have hsplit : (signature ++ String.ofList (c :: rest)).toList = taken ++ c :: rest := by
        rw [String.toList_append, String.toList_ofList, htext, List.append_nil]
      rw [parse_of_like hread htext hsplit ⟨c, rest, rfl, .inr ⟨rfl, hc⟩⟩, before_cons hsplit,
        ← String.length_toList, htext, List.append_nil]

/-- A list with a wildcard, one with two names in an argument, and one that is cut off. -/
theorem readsGrammar_lists :
    (∃ tree : SyntaxTree, Spells tree.yield "List <? extends a.B[]>".toList ∧
      tree.type = .declared "List" [.array (.simple "a.B")]) ∧
    parse "List<a b>" = .error (.unexpected 'b' 7 "List<a b>") ∧
    parse "List<a b.c[], d>" = .error (.unexpected 'b' 7 "List<a b.c[], d>") ∧
    parse "List<a" = .error (.unexpectedEnd "List<a") ∧
    parse ("List<a" ++ String.ofList ['-', '>']) = .error (.unexpected '-' 6 "List<a->") := by
  have hsecond : parse "List<a b>" = .error (.unexpected 'b' 7 "List<a b>") := by decide +kernel
  have hcut : parse "List<a" = .error (.unexpectedEnd "List<a") := by decide +kernel
  refine ⟨?_, hsecond, ?_, hcut, ?_⟩
  · exact ((readsGrammar _).read _).mp (by decide +kernel)
  · exact ((readsGrammar _).unexpected _ _ _ hsecond).2.2 _ (by decide)
  · exact ((readsGrammar _).unexpectedEnd _ hcut).2 '-' ['>'] ⟨by decide, by decide, by decide⟩

end TypeRef

end DerivedQuery.Types
