import DerivedQuery.Proofs.Types.SignatureGrammar

/-!
# Reading by the grammar

The readers find a tree behind everything they read (`exists_tree_of_read`), and the type of a tree
is what they read from any spelling of its yield (`SyntaxTree.isRead`). A text is therefore read
exactly if the grammar derives it (`parse_eq_ok_iff`).
-/

namespace DerivedQuery.Types

namespace TypeRef

open DerivedQuery.Unicode

/-! ## The readers by the sign in front -/

/-- Goes on behind a sign if the text has it in front, and with the text otherwise. -/
def ifSign {α : Type} (sign : Char) (yes no : List Char → α) : List Char → α
  | [] => no []
  | c :: rest => if c = sign then yes rest else no (c :: rest)

/-- `ifSign` behind blanks. -/
def ifNext {α : Type} (sign : Char) (yes no : List Char → α) (text : List Char) : α :=
  ifSign sign yes no (skipBlanks text)

section

variable {α : Type} {sign : Char} {yes no : List Char → α} {text : List Char}

/-- A choice by the sign in front goes one of the two ways. -/
theorem ifNext_cases (sign : Char) (yes no : List Char → α) (text : List Char) :
    (∃ rest, skipBlanks text = sign :: rest ∧ ifNext sign yes no text = yes rest) ∨
      (∀ rest, skipBlanks text ≠ sign :: rest) ∧
        ifNext sign yes no text = no (skipBlanks text) := by
  unfold ifNext
  cases skipBlanks text with
  | nil => exact .inr ⟨nofun, rfl⟩
  | cons c rest =>
    by_cases hc : c = sign
    · exact .inl ⟨rest, by rw [hc], if_pos hc⟩
    · exact .inr ⟨fun _ h => hc (List.cons.inj h).1, if_neg hc⟩

theorem ifNext_of_sign {rest : List Char} (h : skipBlanks text = sign :: rest) :
    ifNext sign yes no text = yes rest := by
  rw [ifNext, h]
  exact if_pos rfl

theorem ifNext_of_ne (h : ∀ rest, skipBlanks text ≠ sign :: rest) :
    ifNext sign yes no text = no (skipBlanks text) := by
  rcases ifNext_cases sign yes no text with ⟨rest, hrest, -⟩ | ⟨-, hno⟩
  · exact absurd hrest (h rest)
  · exact hno

/-- The way behind the sign is taken for a text that spells it first. -/
theorem Spells.ifNext_sign {terminals : List Terminal}
    (h : Spells (.sign sign :: terminals) text) :
    ∃ rest, Spells terminals rest ∧ rest.length < text.length ∧
      ∀ {α : Type} (yes no : List Char → α), ifNext sign yes no text = yes rest := by
  obtain ⟨-, rest, htext, hrest⟩ := h.behind_sign
  have hlen := skipBlanks_length_le text
  rw [htext, List.length_cons] at hlen
  exact ⟨rest, hrest, hlen, fun _ _ => ifNext_of_sign htext⟩

/-- The other way is taken for a text that spells something else first. -/
theorem Spells.ifNext_other {terminals : List Terminal} (h : Spells terminals text)
    (hsign : sign ∈ signs) (hne : ∀ others, terminals ≠ .sign sign :: others)
    (yes no : List Char → α) : ifNext sign yes no text = no (skipBlanks text) :=
  ifNext_of_ne fun _ hrest => by
    obtain ⟨others, hothers⟩ := h.of_sign hsign hrest
    exact hne others hothers

end

/-- Goes on with the name in front of the text, which may be empty, and with what follows it. -/
def onName {α : Type} (next : String → List Char → α) (text : List Char) : α :=
  next (readName text).1 (readName text).2

/-- Reads the bound of a wildcard, behind the word after its mark. -/
def readBound (steps : Nat) (word : String) (text : List Char) :
    Except (List Char) (TypeRef × List Char) :=
  if word = "" then .ok (.simple objectName, text)
  else if word = "extends" then readType steps text
  else .error text

/-- Reads what is left of a type behind its name. -/
def readNamed (steps : Nat) (name : String) (text : List Char) :
    Except (List Char) (TypeRef × List Char) :=
  if name = "" then .error text
  else if name = "void" then readBrackets steps .void text
  else if primitiveNames.contains name then readBrackets steps (.primitive name) text
  else readArguments steps text >>= fun args => readBrackets steps (.declared name args.1) args.2

/-- Reads an argument and the ones after it. -/
def readSeveral (steps : Nat) (text : List Char) :
    Except (List Char) (List TypeRef × List Char) :=
  readType steps text >>= fun first =>
    readMoreArguments steps first.2 >>= fun others => .ok (first.1 :: others.1, others.2)

theorem readSymbol_bind {β : Type} (symbol : Char) (f : List Char → Except (List Char) β)
    (text : List Char) : readSymbol symbol text >>= f = ifNext symbol f .error text := by
  unfold readSymbol ifNext
  cases skipBlanks text with
  | nil => rfl
  | cons c rest =>
    dsimp only [ifSign]
    split <;> rfl

theorem readBrackets_succ (steps : Nat) (type : TypeRef) (text : List Char) :
    readBrackets (steps + 1) type text =
      ifNext '[' (ifNext ']' (readBrackets steps type.array) .error) (fun rest => .ok (type, rest))
        text := by
  rw [readBrackets]
  split
  next rest h => rw [ifNext_of_sign h, readSymbol_bind]
  next h => rw [ifNext_of_ne h]

theorem readType_succ (steps : Nat) (text : List Char) :
    readType (steps + 1) text =
      ifNext '?' (fun rest => onName (readBound steps) (skipBlanks rest))
        (onName (readNamed steps)) text := by
  rw [readType]
  split
  next rest h => rw [ifNext_of_sign h]; rfl
  next h => rw [ifNext_of_ne h]; rfl

theorem readArguments_succ (steps : Nat) (text : List Char) :
    readArguments (steps + 1) text =
      ifNext '<' (readSeveral steps) (fun rest => .ok ([], rest)) text := by
  rw [readArguments]
  split
  next rest h => rw [ifNext_of_sign h]; rfl
  next h => rw [ifNext_of_ne h]

theorem readMoreArguments_succ (steps : Nat) (text : List Char) :
    readMoreArguments (steps + 1) text =
      ifNext ',' (readSeveral steps) (ifNext '>' (fun rest => .ok ([], rest)) .error) text := by
  rw [readMoreArguments]
  split
  next rest h => rw [ifNext_of_sign h]; rfl
  next h => rw [ifNext_of_ne h, readSymbol_bind]; rfl

/-! ## What is read has a tree -/

/-- Whether a text is a spelling of terminals in front of a rest. -/
def Takes (terminals : List Terminal) (text rest : List Char) : Prop :=
  ∀ ⦃after : List Terminal⦄, Spells after rest → Spells (terminals ++ after) text

section

variable {terminals terminals' : List Terminal} {text middle rest : List Char}

theorem takes_skipBlanks (text : List Char) : Takes [] text (skipBlanks text) :=
  fun _ h => spells_skipBlanks.mp h

theorem Takes.of_skipBlanks (h : Takes terminals (skipBlanks text) rest) :
    Takes terminals text rest :=
  fun _ hafter => spells_skipBlanks.mp (h hafter)

theorem Takes.append (h : Takes terminals text middle) (h' : Takes terminals' middle rest) :
    Takes (terminals ++ terminals') text rest := by
  intro after hafter
  rw [List.append_assoc]
  exact h (h' hafter)

theorem Takes.sign {c : Char} (hc : c ∈ signs) (htext : skipBlanks text = c :: middle)
    (h : Takes terminals middle rest) : Takes (.sign c :: terminals) text rest := by
  intro after hafter
  rw [← spells_skipBlanks, htext]
  exact (h hafter).sign hc

theorem Takes.name (hname : (readName text).1 ≠ "")
    (h : Takes terminals (readName text).2 rest) :
    Takes (.name (readName text).1 :: terminals) text rest := by
  intro after hafter
  have hspells := (h hafter).name ⟨hname, readName_chars text⟩ (nameEnds_readName text)
  rwa [readName_append_rest] at hspells

end

theorem readName_of_empty {text : List Char} (h : (readName text).1 = "") :
    (readName text).2 = text := by
  have happend := readName_append_rest text
  rwa [h] at happend

/-- The brackets that are read are in the text. -/
theorem exists_brackets_of_read {steps : Nat} {type t : TypeRef} {text rest : List Char}
    (h : readBrackets steps type text = .ok (t, rest)) :
    ∃ n, array^[n] type = t ∧ Takes (bracketYield n) text rest := by
  induction steps generalizing type text with
  | zero =>
    cases h
    exact ⟨0, rfl, fun _ hafter => hafter⟩
  | succ steps ih =>
    rw [readBrackets_succ] at h
    rcases ifNext_cases '[' _ _ text with ⟨inner, htext, hyes⟩ | ⟨-, hno⟩
    · rw [hyes] at h
      rcases ifNext_cases ']' _ _ inner with ⟨behind, hinner, hyes⟩ | ⟨-, hno⟩
      · rw [hyes] at h
        obtain ⟨n, hn, htakes⟩ := ih h
        exact ⟨n + 1, hn, .sign (by decide) htext (.sign (by decide) hinner htakes)⟩
      · rw [hno] at h
        cases h
    · rw [hno] at h
      cases h
      exact ⟨0, rfl, takes_skipBlanks text⟩

/-- Whether a type has a tree that the text spells in front of the rest. -/
def HasTree (t : TypeRef) (text rest : List Char) : Prop :=
  ∃ tree : SyntaxTree, tree.type = t ∧ Takes tree.yield text rest

/-- Whether arguments have trees whose yield the text spells in front of the rest. -/
def HaveTrees (yield : List SyntaxTree → List Terminal) (args : List TypeRef)
    (text rest : List Char) : Prop :=
  ∃ trees, SyntaxTree.types trees = args ∧ Takes (yield trees) text rest

/-- What is read behind the mark of a wildcard is a wildcard with it. -/
theorem hasTree_of_readBound {steps : Nat}
    (ih : ∀ {text rest t}, readType steps text = .ok (t, rest) → HasTree t text rest)
    {text afterMark rest : List Char} {t : TypeRef} (htext : skipBlanks text = '?' :: afterMark)
    (h : onName (readBound steps) (skipBlanks afterMark) = .ok (t, rest)) :
    HasTree t text rest := by
  dsimp only [onName, readBound] at h
  split at h
  next hnone =>
    cases h
    refine ⟨.wildcard, rfl, .sign (by decide) htext ?_⟩
    rw [readName_of_empty hnone]
    exact takes_skipBlanks afterMark
  next hsome =>
    split at h
    next hextends =>
      obtain ⟨bound, hbound, htakes⟩ := ih h
      refine ⟨.bounded bound, hbound, .sign (by decide) htext (.of_skipBlanks ?_)⟩
      rw [← hextends]
      exact .name hsome htakes
    · cases h

/-- A name without arguments, with the brackets behind it. -/
theorem hasTree_of_readBrackets {steps : Nat} {t : TypeRef} {text rest : List Char}
    (hname : (readName text).1 ≠ "")
    (h : readBrackets steps (named (readName text).1) (readName text).2 = .ok (t, rest)) :
    HasTree t text rest := by
  obtain ⟨n, hn, htakes⟩ := exists_brackets_of_read h
  exact ⟨.plain _ ⟨hname, readName_chars text⟩ n, hn, .name hname htakes⟩

/-- What is read from a name on has a tree, whether it is one with arguments or not. -/
theorem hasTree_of_readNamed {steps : Nat}
    (ih : ∀ {text rest args}, readArguments steps text = .ok (args, rest) →
      HaveTrees SyntaxTree.argumentsYield args text rest)
    {text rest : List Char} {t : TypeRef} (h : onName (readNamed steps) text = .ok (t, rest)) :
    HasTree t text rest := by
  dsimp only [onName, readNamed] at h
  split at h
  · cases h
  next hname =>
    split at h
    next hvoid => exact hasTree_of_readBrackets hname (by rwa [named, if_pos hvoid])
    next hvoid =>
      split at h
      next hprimitive =>
        exact hasTree_of_readBrackets hname (by rwa [named, if_neg hvoid, if_pos hprimitive])
      next hprimitive =>
        obtain ⟨⟨args, middle⟩, hargs, h⟩ := bind_eq_ok.mp h
        obtain ⟨trees, rfl, htrees⟩ := ih hargs
        obtain ⟨n, hn, hbrackets⟩ := exists_brackets_of_read h
        have htakes := Takes.name hname (htrees.append hbrackets)
        cases trees with
        | nil =>
          refine ⟨.plain _ ⟨hname, readName_chars text⟩ n, ?_, htakes⟩
          rwa [SyntaxTree.type, named, if_neg hvoid, if_neg hprimitive]
        | cons first others =>
          have hisName : IsName (readName text).1 :=
            ⟨hname, readName_chars text, hvoid, by simpa using hprimitive⟩
          refine ⟨.generic _ hisName first others n, hn, ?_⟩
          rwa [SyntaxTree.argumentsYield, List.cons_append, List.append_assoc] at htakes

/-- What the readers read has a tree, whatever the bound. -/
theorem exists_tree_of_read (steps : Nat) :
    (∀ {text rest t}, readType steps text = .ok (t, rest) → HasTree t text rest) ∧
      (∀ {text rest args}, readArguments steps text = .ok (args, rest) →
        HaveTrees SyntaxTree.argumentsYield args text rest) ∧
      ∀ {text rest args}, readMoreArguments steps text = .ok (args, rest) →
        HaveTrees SyntaxTree.othersYield args text rest := by
  induction steps with
  | zero =>
    refine ⟨?_, ?_, ?_⟩ <;> intro _ _ _ h <;> cases h
  | succ steps ih =>
    obtain ⟨ihType, ihArguments, ihMore⟩ := ih
    have hseveral : ∀ {text rest args}, readSeveral steps text = .ok (args, rest) →
        ∃ first others, SyntaxTree.types (first :: others) = args ∧
          Takes (first.yield ++ SyntaxTree.othersYield others) text rest := by
      intro text rest args h
      obtain ⟨⟨t, middle⟩, hfirst, h⟩ := bind_eq_ok.mp h
      obtain ⟨⟨ts, rest'⟩, hothers, h⟩ := bind_eq_ok.mp h
      cases h
      obtain ⟨first, rfl, htakes⟩ := ihType hfirst
      obtain ⟨others, rfl, htakes'⟩ := ihMore hothers
      exact ⟨first, others, rfl, htakes.append htakes'⟩
    refine ⟨?_, ?_, ?_⟩
    · intro text rest t h
      rw [readType_succ] at h
      rcases ifNext_cases '?' _ _ text with ⟨afterMark, htext, hyes⟩ | ⟨-, hno⟩
      · exact hasTree_of_readBound ihType htext (hyes.symm.trans h)
      · obtain ⟨tree, htype, htakes⟩ := hasTree_of_readNamed ihArguments (hno.symm.trans h)
        exact ⟨tree, htype, htakes.of_skipBlanks⟩
    · intro text rest args h
      rw [readArguments_succ] at h
      rcases ifNext_cases '<' _ _ text with ⟨inner, htext, hyes⟩ | ⟨-, hno⟩
      · obtain ⟨first, others, hargs, htakes⟩ := hseveral (hyes.symm.trans h)
        exact ⟨first :: others, hargs, .sign (by decide) htext htakes⟩
      · cases hno.symm.trans h
        exact ⟨[], rfl, takes_skipBlanks text⟩
    · intro text rest args h
      rw [readMoreArguments_succ] at h
      rcases ifNext_cases ',' _ _ text with ⟨inner, htext, hyes⟩ | ⟨-, hno⟩
      · obtain ⟨next, others, hargs, htakes⟩ := hseveral (hyes.symm.trans h)
        exact ⟨next :: others, hargs, .sign (by decide) htext htakes⟩
      · rw [hno] at h
        rcases ifNext_cases '>' _ _ (skipBlanks text) with ⟨behind, htext, hyes⟩ | ⟨-, hno⟩
        · cases hyes.symm.trans h
          rw [skipBlanks_skipBlanks] at htext
          exact ⟨[], rfl, .sign (by decide) htext fun _ hafter => hafter⟩
        · cases hno.symm.trans h

/-! ## What has a tree is read -/

/-- No name is in front of a text that spells something else first. -/
theorem Spells.readName_other {terminals : List Terminal} {text : List Char}
    (h : Spells terminals text) (hne : ∀ name others, terminals ≠ .name name :: others) :
    readName (skipBlanks text) = ("", skipBlanks text) := by
  have hends : NameEnds (skipBlanks text) := by
    intro c hc
    rcases h.front with ⟨-, hnil⟩ | ⟨_, _, _, -, hsign, hcons, -⟩ | ⟨name, others, _, hname, -⟩
    · rw [hnil] at hc
      cases hc
    · rw [hcons] at hc
      cases hc
      exact (apart_of_mem_signs hsign).2
    · exact absurd hname (hne name others)
  exact @readName_append "" (fun _ hc => by cases hc) _ hends

/-- Brackets are read as far as they go. -/
theorem readBrackets_array {n : Nat} {after : List Terminal} (hafter : Closes after)
    {steps : Nat} {type : TypeRef} {text : List Char} (h : Spells (bracketYield n ++ after) text)
    (hsteps : text.length < steps) :
    ∃ rest, readBrackets steps type text = .ok (array^[n] type, rest) ∧ Spells after rest ∧
      rest.length ≤ text.length := by
  induction n generalizing steps type text with
  | zero =>
    obtain ⟨steps, rfl⟩ := Nat.exists_eq_succ_of_ne_zero (Nat.ne_zero_of_lt hsteps)
    refine ⟨skipBlanks text, ?_, spells_skipBlanks.mpr h, skipBlanks_length_le text⟩
    rw [readBrackets_succ, h.ifNext_other (by decide) (hafter.ne_sign (by decide))]
    rfl
  | succ n ih =>
    obtain ⟨steps, rfl⟩ := Nat.exists_eq_succ_of_ne_zero (Nat.ne_zero_of_lt hsteps)
    obtain ⟨inner, hinner, hlt, hopen⟩ := h.ifNext_sign
    obtain ⟨behind, hbehind, hlt', hclose⟩ := hinner.ifNext_sign
    obtain ⟨rest, hread, hrest, hle⟩ := @ih steps type.array behind hbehind (by omega)
    refine ⟨rest, ?_, hrest, by omega⟩
    rw [readBrackets_succ, hopen, hclose, hread]
    rfl

/-- Whether the type of a tree is what is read from every spelling of it. -/
def SyntaxTree.IsRead (tree : SyntaxTree) : Prop :=
  ∀ {after : List Terminal} {text : List Char} {steps : Nat}, Closes after →
    Spells (tree.yield ++ after) text → text.length < steps →
      ∃ rest, readType steps text = .ok (tree.type, rest) ∧ Spells after rest ∧
        rest.length < text.length

/-- An argument and those after it are read. -/
theorem readSeveral_types {first : SyntaxTree} {others : List SyntaxTree}
    (hfirst : first.IsRead) (hothers : ∀ tree ∈ others, tree.IsRead) {after : List Terminal}
    {text : List Char} {steps : Nat}
    (h : Spells (first.yield ++ (SyntaxTree.othersYield others ++ after)) text)
    (hsteps : text.length < steps) :
    ∃ rest, readSeveral steps text = .ok (SyntaxTree.types (first :: others), rest) ∧
      Spells after rest ∧ rest.length < text.length := by
  induction others generalizing first text steps with
  | nil =>
    obtain ⟨middle, hread, hmiddle, hlt⟩ := hfirst (closes_othersYield _ after) h hsteps
    obtain ⟨steps, rfl⟩ := Nat.exists_eq_succ_of_ne_zero (Nat.ne_zero_of_lt hsteps)
    obtain ⟨rest, hrest, hlt', hend⟩ := (spells_skipBlanks.mpr hmiddle).ifNext_sign
    have hle := skipBlanks_length_le middle
    refine ⟨rest, ?_, hrest, by omega⟩
    have hmore : readMoreArguments (steps + 1) middle = .ok ([], rest) := by
      rw [readMoreArguments_succ, hmiddle.ifNext_other (by decide) (fun _ h => by cases h), hend]
    exact bind_eq_ok.mpr ⟨_, hread, bind_eq_ok.mpr ⟨_, hmore, rfl⟩⟩
  | cons next others ih =>
    obtain ⟨hnext, hothers⟩ := List.forall_mem_cons.mp hothers
    obtain ⟨middle, hread, hmiddle, hlt⟩ := hfirst (closes_othersYield _ after) h hsteps
    obtain ⟨steps, rfl⟩ := Nat.exists_eq_succ_of_ne_zero (Nat.ne_zero_of_lt hsteps)
    rw [SyntaxTree.othersYield, List.cons_append, List.append_assoc] at hmiddle
    obtain ⟨inner, hinner, hlt', hcomma⟩ := hmiddle.ifNext_sign
    obtain ⟨rest, hseveral, hrest, hlt''⟩ :=
      ih hnext hothers hinner (show inner.length < steps by omega)
    refine ⟨rest, ?_, hrest, by omega⟩
    have hmore : readMoreArguments (steps + 1) middle =
        .ok (SyntaxTree.types (next :: others), rest) := by
      rw [readMoreArguments_succ, hcomma, hseveral]
    exact bind_eq_ok.mpr ⟨_, hread, bind_eq_ok.mpr ⟨_, hmore, rfl⟩⟩

theorem Spells.readName_spelled {name : String} {terminals : List Terminal} {text : List Char}
    (h : Spells (.name name :: terminals) text) :
    ∃ rest, Spells terminals rest ∧ rest.length < text.length ∧
      readName (skipBlanks text) = (name, rest) := by
  obtain ⟨hname, rest, hends, htext, hrest⟩ := h.behind_name
  have hlen := skipBlanks_length_le text
  have hpos := List.length_pos_of_ne_nil hname.toList_ne_nil
  rw [htext, List.length_append] at hlen
  exact ⟨rest, hrest, by omega, by rw [htext, readName_append hname.chars hends]⟩

/-- A name is what is read first of a text that spells it first. -/
theorem Spells.readType_name {name : String} {terminals : List Terminal} {text : List Char}
    (h : Spells (.name name :: terminals) text) :
    ∃ rest, Spells terminals rest ∧ rest.length < text.length ∧ ∀ steps,
      readType (steps + 1) text = readNamed steps name rest := by
  obtain ⟨rest, hrest, hlt, hread⟩ := h.readName_spelled
  refine ⟨rest, hrest, hlt, fun steps => ?_⟩
  rw [readType_succ, h.ifNext_other (by decide) (fun _ h => by cases h), onName, hread]

/-- The type of a tree is read from every spelling of it. -/
theorem SyntaxTree.isRead (tree : SyntaxTree) : tree.IsRead := by
  induction tree with
  | wildcard =>
    intro after text steps hafter h hsteps
    obtain ⟨steps, rfl⟩ := Nat.exists_eq_succ_of_ne_zero (Nat.ne_zero_of_lt hsteps)
    obtain ⟨afterMark, hspells, hlt, hmark⟩ := h.ifNext_sign
    have hle := skipBlanks_length_le afterMark
    refine ⟨skipBlanks afterMark, ?_, spells_skipBlanks.mpr hspells, by omega⟩
    rw [readType_succ, hmark, onName, hspells.readName_other hafter.ne_name]
    rfl
  | bounded bound ih =>
    intro after text steps hafter h hsteps
    obtain ⟨steps, rfl⟩ := Nat.exists_eq_succ_of_ne_zero (Nat.ne_zero_of_lt hsteps)
    obtain ⟨afterMark, hspells, hlt, hmark⟩ := h.ifNext_sign
    obtain ⟨afterWord, hbound, hlt', hword⟩ := hspells.readName_spelled
    obtain ⟨rest, hread, hrest, hlt''⟩ := @ih after afterWord steps hafter hbound (by omega)
    refine ⟨rest, ?_, hrest, by omega⟩
    rw [readType_succ, hmark, onName, hword]
    exact hread
  | plain name hname brackets =>
    intro after text steps hafter h hsteps
    obtain ⟨steps, rfl⟩ := Nat.exists_eq_succ_of_ne_zero (Nat.ne_zero_of_lt hsteps)
    obtain ⟨afterName, hspells, hlt, hread⟩ := h.readType_name
    have harray : ∀ {type : TypeRef} {middle : List Char},
        Spells (bracketYield brackets ++ after) middle → middle.length ≤ afterName.length →
          ∃ rest, readBrackets steps type middle = .ok (array^[brackets] type, rest) ∧
            Spells after rest ∧ rest.length < text.length := by
      intro type middle hmiddle hle
      obtain ⟨rest, hbrackets, hrest, hle'⟩ :=
        readBrackets_array hafter hmiddle (show middle.length < steps by omega)
      exact ⟨rest, hbrackets, hrest, by omega⟩
    rw [hread, readNamed, if_neg hname.ne_empty, SyntaxTree.type, named]
    split
    · exact harray hspells le_rfl
    · split
      · exact harray hspells le_rfl
      · obtain ⟨steps, rfl⟩ : ∃ s, steps = s + 1 := ⟨steps - 1, by omega⟩
        rw [readArguments_succ, hspells.ifNext_other (by decide) (bracketYield_ne_open hafter)]
        exact harray (spells_skipBlanks.mpr hspells) (skipBlanks_length_le afterName)
  | generic name hname first others brackets ihFirst ihOthers =>
    intro after text steps hafter h hsteps
    obtain ⟨steps, rfl⟩ := Nat.exists_eq_succ_of_ne_zero (Nat.ne_zero_of_lt hsteps)
    obtain ⟨afterName, hspells, hlt, hread⟩ := h.readType_name
    obtain ⟨inner, hinner, hlt', hopen⟩ := hspells.ifNext_sign
    rw [List.append_eq, List.append_assoc, List.append_assoc] at hinner
    obtain ⟨steps, rfl⟩ : ∃ s, steps = s + 1 := ⟨steps - 1, by omega⟩
    obtain ⟨behind, hargs, hbehind, hlt''⟩ :=
      readSeveral_types ihFirst ihOthers hinner (show inner.length < steps by omega)
    obtain ⟨rest, hbrackets, hrest, hle⟩ :=
      readBrackets_array hafter hbehind (show behind.length < steps + 1 by omega)
    refine ⟨rest, ?_, hrest, by omega⟩
    rw [hread, readNamed, if_neg hname.ne_empty, if_neg hname.ne_void,
      if_neg (by simpa using hname.not_primitive), readArguments_succ, hopen, hargs]
    exact hbrackets

/-- The texts that can be read are those that a tree derives, and they are read as its type. -/
theorem parse_eq_ok_iff {signature : String} {t : TypeRef} :
    parse signature = .ok t ↔
      ∃ tree : SyntaxTree, Spells tree.yield signature.toList ∧ tree.type = t := by
  unfold parse
  constructor
  · intro h
    split at h
    · cases h
    · split at h
      · cases h
      next hread =>
        split at h
        next hrest =>
          cases h
          obtain ⟨tree, htype, htakes⟩ := (exists_tree_of_read _).1 hread
          have hspells := htakes (spells_skipBlanks.mp (hrest ▸ Spells.nil))
          rw [List.append_nil, spells_skipBlanks] at hspells
          exact ⟨tree, hspells, htype⟩
        · cases h
  · rintro ⟨tree, hspells, rfl⟩
    rw [← spells_skipBlanks, ← List.append_nil tree.yield] at hspells
    split
    next hnil =>
      rw [hnil, List.append_nil] at hspells
      exact absurd (hspells.unique .nil) tree.yield_ne_nil
    · obtain ⟨rest, hread, hrest, -⟩ := tree.isRead (.inl rfl) hspells (Nat.lt_succ_self _)
      rw [hread]
      simp only [hrest.skipBlanks_eq_nil]

end TypeRef

end DerivedQuery.Types
