import FrameTap.CommandLine.Arguments
import FrameTap.Proofs.CommandLine.Draft

/-!
# Options as they are written

An option may be written in several ways: by its name or its letter, with its values behind
it as arguments of their own, behind an equals sign, or right behind the letter.  A command
line made of such occurrences is entered into a draft occurrence by occurrence, in their order
(`readAll_written`).  How an occurrence is written makes no difference to that: what it
enters depends on its option and its values alone.

An option whose values are arguments of their own is entered only when the next option
comes.  The induction over the command line therefore speaks of any reading, with its open
option settled first.  The letter of a switch may share an argument with the letter behind
it; such an argument reads as two.
-/

namespace FrameTap.CommandLine

/-- The name of an option as it is typed, or its letter. -/
def Named.typed (n : Named) (short : Bool) : Bytes :=
  Utf8.encode (if short then '-' :: n.short?.toList else n.dashed)

/-- An option as it stands on the command line. -/
inductive Occurrence where
  /-- The values are arguments of their own. -/
  | apart (o : Opt) (short : Bool) (values : List Bytes)
  /-- The value stands behind an equals sign. -/
  | equated (o : Opt) (short : Bool) (value : Bytes)
  /-- The value stands right behind the letter. -/
  | attached (o : Opt) (value : Bytes)
  | debug (short : Bool)
  deriving DecidableEq

namespace Occurrence

def name : Occurrence → Named
  | apart o _ _ | equated o _ _ | attached o _ => .opt o
  | debug _ => .switch .debug

def arguments : Occurrence → List Bytes
  | apart o short values => (Named.opt o).typed short :: values
  | equated o short value => [(Named.opt o).typed short ++ equalsSign :: value]
  | attached o value => [(Named.opt o).typed true ++ value]
  | debug short => [(Named.switch .debug).typed short]

/-- The option can be written so: it has a letter where one is used, an argument of its own is
not taken for an option, and a value right behind a letter is there and has no equals sign in
front. -/
def WellFormed : Occurrence → Prop
  | apart o short values =>
    (short = true → (Named.opt o).short?.isSome) ∧ values ≠ [] ∧
      (∀ value ∈ values, value.head? = some dash → value = [dash]) ∧
      (o.isMany = false → values.length = 1)
  | equated o short _ => short = true → (Named.opt o).short?.isSome
  | attached o value =>
    (Named.opt o).short?.isSome ∧ value ≠ [] ∧ value.head? ≠ some equalsSign
  | debug _ => True

instance : (occ : Occurrence) → Decidable occ.WellFormed
  | apart _ _ _ => inferInstanceAs (Decidable (_ ∧ _ ∧ _ ∧ _))
  | equated _ _ _ => inferInstanceAs (Decidable (_ → _))
  | attached _ _ => inferInstanceAs (Decidable (_ ∧ _ ∧ _))
  | debug _ => inferInstanceAs (Decidable True)

def enter (d : Draft) : Occurrence → Except Misuse Draft
  | apart o _ values => d.enter o values
  | equated o _ value | attached o value => d.enter o [value]
  | debug _ => d.enterDebug

def isShort : Occurrence → Bool
  | apart _ short _ | equated _ short _ | debug short => short
  | attached _ _ => true

end Occurrence

/-- The letter of the switch in front of the letters of the first argument. -/
def bundle : List Bytes → List Bytes
  | (b :: letters) :: rest => (b :: 0x64 :: letters) :: rest
  | args => args

/-- The arguments that write occurrences, one after the other.  The letter of the switch and a
letter behind it may share an argument. -/
inductive Written : List Occurrence → List Bytes → Prop where
  | nil : Written [] []
  | cons (occ : Occurrence) {occs : List Occurrence} {args : List Bytes} (h : Written occs args) :
      Written (occ :: occs) (occ.arguments ++ args)
  | bundled (occ : Occurrence) (hshort : occ.isShort) {occs : List Occurrence} {args : List Bytes}
      (h : Written occs args) :
      Written (.debug true :: occ :: occs) (bundle occ.arguments ++ args)

/-! ## Names and letters -/

theorem ofLong?_long (n : Named) : Named.ofLong? (Utf8.encode n.long) = some n := by
  rcases n with o | s
  · cases o <;> rfl
  · cases s <;> rfl

theorem of_typed_long (n : Named) :
    Argument.of (n.typed false) = .long (Utf8.encode n.long) none := by
  rcases n with o | s
  · cases o <;> rfl
  · cases s <;> rfl

theorem of_typed_long_equals (o : Opt) (value : Bytes) :
    Argument.of ((Named.opt o).typed false ++ equalsSign :: value) =
      .long (Utf8.encode (Named.opt o).long) (some value) := by
  cases o <;> rfl

theorem typed_short {n : Named} (h : n.short?.isSome) :
    ∃ b, n.typed true = [dash, b] ∧
      (∀ rest, Argument.of (dash :: b :: rest) = .letters (b :: rest)) ∧
      Named.ofShort? (Char.ofNat b.toNat) = some n := by
  rcases n with o | s
  · cases o with
    | endpoint => exact ⟨0x65, rfl, fun _ => rfl, rfl⟩
    | port => exact ⟨0x70, rfl, fun _ => rfl, rfl⟩
    | format => exact ⟨0x66, rfl, fun _ => rfl, rfl⟩
    | host | pollInterval => cases h
  · cases s with
    | debug => exact ⟨0x64, rfl, fun _ => rfl, rfl⟩
    | help => exact ⟨0x68, rfl, fun _ => rfl, rfl⟩

theorem of_eq_plain {value : Bytes} (h : value.head? = some dash → value = [dash]) :
    Argument.of value = .plain := by
  cases value with
  | nil => rfl
  | cons b rest =>
    by_cases hb : b = dash
    · rw [hb] at h ⊢
      rw [h List.head?_cons]
      rfl
    · unfold Argument.of
      split
      · rename_i heq
        exact absurd (List.cons.inj heq).1 hb
      · rename_i heq
        exact absurd (List.cons.inj heq).1 hb
      · rename_i heq
        exact absurd (List.cons.inj heq).1 hb
      · rfl

namespace Reading

/-! ## One occurrence -/

variable {o : Opt} {d : Draft}

theorem misused_bind {α β : Type} (x : Except Misuse α) (f : α → Except Misuse β) :
    misused (x >>= f) = misused x >>= fun a => misused (f a) := by
  cases x <;> rfl

def entered (x : Except Misuse Draft) : Except Stop Reading := do
  let d ← misused x
  .ok { draft := d }

theorem settle_entered (x : Except Misuse Draft) : (entered x >>= settle) = misused x :=
  (bind_assoc _ _ _).trans (bind_ok _)

theorem attach_eq (r : Reading) (o : Opt) (value : Bytes) :
    r.attach o value = r.settle >>= fun d => entered (d.enter o [value]) := rfl

theorem collect_eq (r : Reading) (o : Opt) :
    r.collect o = r.settle >>= fun d => .ok { draft := d, collecting := some (o, []) } := rfl

theorem turnOn_debug_eq (r : Reading) (detailed : Bool) :
    r.turnOn .debug detailed = r.settle >>= fun d => entered d.enterDebug := rfl

/-- The reading behind an occurrence, where the options before it are in the draft. -/
def behind (d : Draft) : Occurrence → Except Stop Reading
  | .apart o _ values => .ok { draft := d, collecting := some (o, values) }
  | occ => entered (occ.enter d)

theorem settle_behind (d : Draft) (occ : Occurrence) :
    (behind d occ >>= settle) = misused (occ.enter d) := by
  cases occ with
  | apart o short values => rfl
  | equated o short value => exact settle_entered _
  | attached o value => exact settle_entered _
  | debug short => exact settle_entered _

theorem readAll_long {argument name : Bytes} {value? : Option Bytes} (r : Reading)
    (h : Argument.of argument = .long name value?) (rest : List Bytes) :
    r.readAll (argument :: rest) = r.long name value? >>= fun r => r.readAll rest := by
  simp only [readAll, h]

theorem readAll_letters {argument bytes : Bytes} (r : Reading)
    (h : Argument.of argument = .letters bytes) (rest : List Bytes) :
    r.readAll (argument :: rest) = r.letters bytes >>= fun r => r.readAll rest := by
  simp only [readAll, h]

theorem readAll_plain {argument : Bytes} {r r' : Reading} (h : Argument.of argument = .plain)
    (htake : r.takeValue? argument = some r') (rest : List Bytes) :
    r.readAll (argument :: rest) = r'.readAll rest := by
  simp only [readAll, h, htake]

theorem long_opt (r : Reading) (o : Opt) :
    r.long (Utf8.encode (Named.opt o).long) none = r.collect o := by
  simp only [long, ofLong?_long]

theorem long_opt_equals (r : Reading) (o : Opt) (value : Bytes) :
    r.long (Utf8.encode (Named.opt o).long) (some value) = r.attach o value := by
  simp only [long, ofLong?_long]

theorem long_switch (r : Reading) (s : Switch) :
    r.long (Utf8.encode (Named.switch s).long) none = r.turnOn s true := by
  simp only [long, ofLong?_long]

theorem letters_opt {b : UInt8} (r : Reading)
    (h : Named.ofShort? (Char.ofNat b.toNat) = some (.opt o)) :
    r.letters [b] = r.collect o := by
  simp [letters, h]

theorem letters_opt_cons {b c : UInt8} (r : Reading)
    (h : Named.ofShort? (Char.ofNat b.toNat) = some (.opt o)) (bytes : Bytes) :
    r.letters (b :: c :: bytes) = r.attach o (attached (c :: bytes)) := by
  simp [letters, h]

theorem letters_switch {b : UInt8} {s : Switch} (r : Reading)
    (h : Named.ofShort? (Char.ofNat b.toNat) = some (.switch s)) (bytes : Bytes) :
    r.letters (b :: bytes) = r.turnOn s false >>= fun r => r.letters bytes := by
  simp [letters, h]

theorem letters_nil (r : Reading) : r.letters [] = .ok r := by
  simp only [letters]

theorem attached_equals (value : Bytes) : attached (equalsSign :: value) = value := rfl

theorem attached_of_ne {b : UInt8} {value : Bytes} (h : b ≠ equalsSign) :
    attached (b :: value) = b :: value := by
  rw [attached, if_neg h]

theorem readAll_values (d : Draft) (taken : List Bytes) {values : List Bytes}
    (hplain : ∀ value ∈ values, value.head? = some dash → value = [dash])
    (hroom : o.isMany = false → (taken ++ values).length ≤ 1) (rest : List Bytes) :
    readAll { draft := d, collecting := some (o, taken) } (values ++ rest) =
      readAll { draft := d, collecting := some (o, taken ++ values) } rest := by
  induction values generalizing taken with
  | nil => rw [List.append_nil, List.nil_append]
  | cons value values ih =>
    have hfirst := of_eq_plain (hplain value List.mem_cons_self)
    have hrest := fun v hv => hplain v (List.mem_cons_of_mem value hv)
    have hsplit : taken ++ value :: values = (taken ++ [value]) ++ values := by simp
    -- An option of one value has taken none so far, as there is room for this one.
    have htakes : o.isMany || taken.isEmpty := by
      cases hmany : o.isMany with
      | true => rfl
      | false =>
        have hlength := hroom hmany
        rw [List.length_append, List.length_cons] at hlength
        rw [List.length_eq_zero_iff.1 (by omega : taken.length = 0)]
        rfl
    have htake : takeValue? { draft := d, collecting := some (o, taken) } value =
        some { draft := d, collecting := some (o, taken ++ [value]) } := if_pos htakes
    rw [hsplit] at hroom ⊢
    rw [List.cons_append, readAll_plain hfirst htake, ih _ hrest hroom]

theorem readAll_typed (r : Reading) {short : Bool}
    (h : short = true → (Named.opt o).short?.isSome) (rest : List Bytes) :
    r.readAll ((Named.opt o).typed short :: rest) =
      r.settle >>= fun d => readAll { draft := d, collecting := some (o, []) } rest := by
  have hcollect : (r.collect o >>= fun r => r.readAll rest) =
      r.settle >>= fun d => readAll { draft := d, collecting := some (o, []) } rest := by
    rw [collect_eq, bind_assoc]
    rfl
  rw [← hcollect]
  cases short with
  | false => rw [readAll_long r (of_typed_long (.opt o)), long_opt]
  | true =>
    obtain ⟨b, hb, hof, hname⟩ := typed_short (h rfl)
    rw [hb, readAll_letters r (hof []), letters_opt r hname]

theorem readAll_debug (r : Reading) (rest : List Bytes) :
    r.readAll ((Named.switch .debug).typed true :: rest) =
      r.turnOn .debug false >>= fun r => r.readAll rest := by
  obtain ⟨b, hb, hof, hname⟩ := typed_short (n := .switch .debug) rfl
  rw [hb, readAll_letters r (hof []), letters_switch r hname, bind_assoc]
  simp only [letters_nil, ok_bind]

/-- The step: what is open is settled, and then the occurrence is read. -/
theorem readAll_occurrence {occ : Occurrence} (h : occ.WellFormed) (r : Reading)
    (rest : List Bytes) :
    r.readAll (occ.arguments ++ rest) =
      r.settle >>= fun d => behind d occ >>= fun r => r.readAll rest := by
  cases occ with
  | apart o short values =>
    obtain ⟨hshort, -, hplain, hmany⟩ := h
    have hroom : o.isMany = false → values.length ≤ 1 := fun hm => Nat.le_of_eq (hmany hm)
    rw [Occurrence.arguments, List.cons_append, readAll_typed r hshort]
    refine congrArg _ (funext fun d => ?_)
    rw [readAll_values d [] hplain hroom]
    rfl
  | equated o short value =>
    rw [Occurrence.arguments, List.singleton_append]
    cases short with
    | false =>
      rw [readAll_long r (of_typed_long_equals o value), long_opt_equals, attach_eq, bind_assoc]
      rfl
    | true =>
      obtain ⟨b, hb, hof, hname⟩ := typed_short (h rfl)
      rw [hb, List.cons_append, List.singleton_append, readAll_letters r (hof _),
        letters_opt_cons r hname, attached_equals, attach_eq, bind_assoc]
      rfl
  | attached o value =>
    obtain ⟨hshort, hne, hequals⟩ := h
    cases value with
    | nil => exact absurd rfl hne
    | cons c value =>
      have hc : c ≠ equalsSign := fun hc => hequals (congrArg some hc)
      obtain ⟨b, hb, hof, hname⟩ := typed_short hshort
      rw [Occurrence.arguments, List.singleton_append, hb, List.cons_append, List.singleton_append,
        readAll_letters r (hof _), letters_opt_cons r hname, attached_of_ne hc, attach_eq,
        bind_assoc]
      rfl
  | debug short =>
    rw [Occurrence.arguments, List.singleton_append]
    cases short with
    | false =>
      rw [readAll_long r (of_typed_long (.switch .debug)), long_switch, turnOn_debug_eq, bind_assoc]
      rfl
    | true =>
      rw [readAll_debug, turnOn_debug_eq, bind_assoc]
      rfl

/-! ## A command line of occurrences -/

theorem arguments_short {occ : Occurrence} (h : occ.WellFormed) (hshort : occ.isShort) :
    ∃ b bytes values, occ.arguments = (dash :: b :: bytes) :: values ∧
      Argument.of (dash :: b :: bytes) = .letters (b :: bytes) := by
  cases occ with
  | apart o short values =>
    obtain ⟨b, hb, hof, -⟩ := typed_short (h.1 hshort)
    refine ⟨b, [], values, ?_, hof []⟩
    rw [Occurrence.arguments, ← hb, show short = true from hshort]
  | equated o short value =>
    obtain ⟨b, hb, hof, -⟩ := typed_short (h hshort)
    refine ⟨b, equalsSign :: value, [], ?_, hof _⟩
    rw [Occurrence.arguments, show short = true from hshort, hb]
    rfl
  | attached o value =>
    obtain ⟨b, hb, hof, -⟩ := typed_short h.1
    refine ⟨b, value, [], ?_, hof _⟩
    rw [Occurrence.arguments, hb]
    rfl
  | debug short =>
    refine ⟨0x64, [], [], ?_, rfl⟩
    rw [Occurrence.arguments, show short = true from hshort]
    rfl

theorem readAll_bundle {occ : Occurrence} (h : occ.WellFormed) (hshort : occ.isShort) (r : Reading)
    (rest : List Bytes) :
    r.readAll (bundle occ.arguments ++ rest) =
      r.readAll ((Named.switch .debug).typed true :: (occ.arguments ++ rest)) := by
  obtain ⟨b, bytes, values, harguments, hof⟩ := arguments_short h hshort
  have hbundled : Argument.of (dash :: 0x64 :: b :: bytes) = .letters (0x64 :: b :: bytes) := rfl
  have hswitch : Named.ofShort? (Char.ofNat (0x64 : UInt8).toNat) = some (.switch .debug) := rfl
  -- Behind the switch the remaining letters are read as the argument they would be alone.
  rw [harguments, bundle, List.cons_append, List.cons_append, readAll_letters r hbundled,
    letters_switch r hswitch, bind_assoc, readAll_debug]
  refine congrArg _ (funext fun r => ?_)
  rw [readAll_letters r hof]

theorem readAll_cons (occ : Occurrence) {occs : List Occurrence} {args : List Bytes}
    (hocc : occ.WellFormed)
    (h : ∀ r : Reading, r.readAll args =
      r.settle >>= fun d => misused (occs.foldlM Occurrence.enter d)) (r : Reading) :
    r.readAll (occ.arguments ++ args) =
      r.settle >>= fun d => misused ((occ :: occs).foldlM Occurrence.enter d) := by
  rw [readAll_occurrence hocc]
  refine congrArg _ (funext fun d => ?_)
  calc (behind d occ >>= fun r => r.readAll args)
      = behind d occ >>= fun r => r.settle >>= fun d =>
          misused (occs.foldlM Occurrence.enter d) := by simp only [h]
    _ = (behind d occ >>= settle) >>= fun d => misused (occs.foldlM Occurrence.enter d) :=
          (bind_assoc _ _ _).symm
    _ = misused ((occ :: occs).foldlM Occurrence.enter d) := by
          rw [settle_behind, List.foldlM_cons, misused_bind]

/-- The run: whatever was open before, the occurrences are entered in their order. -/
theorem readAll_written {occs : List Occurrence} {args : List Bytes} (hargs : Written occs args)
    (h : ∀ occ ∈ occs, occ.WellFormed) (r : Reading) :
    r.readAll args = r.settle >>= fun d => misused (occs.foldlM Occurrence.enter d) := by
  induction hargs generalizing r with
  | nil => exact (bind_ok r.settle).symm
  | @cons occ occs args hargs ih =>
    have hoccs : ∀ occ' ∈ occs, occ'.WellFormed := fun occ' hocc' =>
      h occ' (List.mem_cons_of_mem occ hocc')
    exact readAll_cons occ (h occ List.mem_cons_self) (ih hoccs) r
  | @bundled occ hshort occs args hargs ih =>
    have hocc : occ.WellFormed := h occ (by simp)
    have hoccs : ∀ occ' ∈ occs, occ'.WellFormed := fun occ' hocc' => h occ' (by simp [hocc'])
    -- The bundle reads as two arguments, so two occurrences are put in front.
    have hbehind := readAll_cons occ hocc (ih hoccs)
    rw [readAll_bundle hocc hshort]
    exact readAll_cons (.debug true) trivial hbehind r

end Reading

variable {occs : List Occurrence} {args : List Bytes} {env? : Option Bytes} {d d' : Draft}

/-- A line whose options are all accepted can only fail over the environment. -/
theorem parse_written_eq (hargs : Written occs args) (h : ∀ occ ∈ occs, occ.WellFormed)
    (henter : occs.foldlM Occurrence.enter {} = .ok d) (env? : Option Bytes) :
    parse args env? =
      Reading.misused (d.enterVariable env?) >>= fun d' => .ok d'.settings := by
  rw [parse, Reading.readAll_written hargs h]
  show (Reading.misused (occs.foldlM Occurrence.enter {}) >>= _) = _
  rw [henter]
  rfl

theorem parse_written (hargs : Written occs args) (h : ∀ occ ∈ occs, occ.WellFormed)
    (henter : occs.foldlM Occurrence.enter {} = .ok d) (henv : d.enterVariable env? = .ok d') :
    parse args env? = .ok d'.settings := by
  rw [parse_written_eq hargs h henter, henv]
  rfl

end FrameTap.CommandLine
