import FrameTap.Proofs.CommandLine.Occurrence

/-!
# What a reading enters

Which arguments are options does not depend on what was read before them, because no value
begins with a dash.  So the options and switches of a command line can be told
from its arguments alone (`names`).  A reading that succeeds has entered just these, one after
the other, each with the values that it collected (`readAll_grows`).  What holds of the empty
draft and survives one entry therefore holds of what any command line comes to.
-/

namespace FrameTap.CommandLine

/-! ## Names -/

/-- The options and switches among letters behind one dash. -/
def letterNames : Bytes → List Named
  | [] => []
  | b :: bytes =>
    match Named.ofShort? (Char.ofNat b.toNat) with
    | some (.switch s) => .switch s :: letterNames bytes
    | some (.opt o) => [.opt o]
    | none => []

/-- The options and switches of a command line, in order. -/
def names : List Bytes → List Named
  | [] => []
  | argument :: rest =>
    match Argument.of argument with
    | .separator => []
    | .long name _ => (Named.ofLong? name).toList ++ names rest
    | .letters bytes => letterNames bytes ++ names rest
    | .plain => names rest

/-! ## Entries -/

/-- The entries of these names lead from one draft to the other. -/
inductive Grows : Draft → List Named → Draft → Prop where
  | refl (d : Draft) : Grows d [] d
  | enter {d d' d'' : Draft} {o : Opt} {values : List Bytes} {ns : List Named}
      (h : d.enter o values = .ok d') (rest : Grows d' ns d'') : Grows d (.opt o :: ns) d''
  | debug {d d' d'' : Draft} {ns : List Named} (h : d.enterDebug = .ok d')
      (rest : Grows d' ns d'') : Grows d (.switch .debug :: ns) d''

variable {d d' d'' : Draft} {ns ns' : List Named}

theorem Grows.append (h : Grows d ns d') (h' : Grows d' ns' d'') : Grows d (ns ++ ns') d'' := by
  induction h with
  | refl => exact h'
  | enter h _ ih => exact .enter h (ih h')
  | debug h _ ih => exact .debug h (ih h')

/-- What survives every entry survives all of them. -/
theorem Grows.preserves {Keeps : Draft → Prop} (h : Grows d ns d')
    (henter : ∀ d d' o values, d.enter o values = .ok d' → Keeps d → Keeps d')
    (hdebug : ∀ d d', d.enterDebug = .ok d' → Keeps d → Keeps d') (hd : Keeps d) : Keeps d' := by
  induction h with
  | refl => exact hd
  | enter h _ ih => exact ih (henter _ _ _ _ h hd)
  | debug h _ ih => exact ih (hdebug _ _ h hd)

theorem Grows.holds (h : Grows d ns d') (n : Named) : d'.holds n = (d.holds n || ns.contains n) := by
  induction h with
  | refl => simp
  | enter h _ ih =>
    rw [ih, (Draft.enter_eq_ok_iff.1 h).2.holds, List.contains_cons, Bool.or_assoc]
  | debug h _ ih => rw [ih, Draft.holds_enterDebug h, List.contains_cons, Bool.or_assoc]

namespace Reading

/-! ## One argument -/

/-- The option that still collects values. -/
def pending (r : Reading) : List Named := (r.collecting.map fun c => Named.opt c.1).toList

/-- These names were read between the two readings.  All of them were entered, except that the
last may still collect values. -/
def Reads (r : Reading) (ns : List Named) (r' : Reading) : Prop :=
  ∃ entered, Grows r.draft entered r'.draft ∧ entered ++ r'.pending = r.pending ++ ns

variable {r r' r'' : Reading} {o : Opt} {value bytes : Bytes}

theorem Reads.refl (r : Reading) : Reads r [] r := ⟨[], .refl _, (List.append_nil _).symm⟩

theorem Reads.trans (h : Reads r ns r') (h' : Reads r' ns' r'') : Reads r (ns ++ ns') r'' := by
  obtain ⟨entered, hgrows, heq⟩ := h
  obtain ⟨entered', hgrows', heq'⟩ := h'
  refine ⟨entered ++ entered', hgrows.append hgrows', ?_⟩
  rw [List.append_assoc, heq', ← List.append_assoc, heq, List.append_assoc]

theorem misused_eq_ok_iff {α : Type} {x : Except Misuse α} {a : α} :
    misused x = .ok a ↔ x = .ok a := mapError_eq_ok_iff

theorem grows_settle (h : r.settle = .ok d) : Grows r.draft r.pending d := by
  obtain ⟨draft, collecting⟩ := r
  cases collecting with
  | none =>
    cases h
    exact .refl _
  | some c => exact .enter (misused_eq_ok_iff.1 h) (.refl _)

theorem reads_attach (h : r.attach o value = .ok r') : Reads r [.opt o] r' := by
  obtain ⟨d, hd, h⟩ := bind_eq_ok_iff.1 h
  obtain ⟨d', hd', h⟩ := bind_eq_ok_iff.1 h
  cases h
  refine ⟨r.pending ++ [.opt o], ?_, List.append_nil _⟩
  exact (grows_settle hd).append (.enter (misused_eq_ok_iff.1 hd') (.refl _))

theorem reads_collect (h : r.collect o = .ok r') : Reads r [.opt o] r' := by
  obtain ⟨d, hd, h⟩ := bind_eq_ok_iff.1 h
  cases h
  exact ⟨r.pending, grows_settle hd, rfl⟩

theorem reads_turnOn {s : Switch} {detailed : Bool} (h : r.turnOn s detailed = .ok r') :
    Reads r [.switch s] r' := by
  obtain ⟨d, hd, h⟩ := bind_eq_ok_iff.1 h
  cases s with
  | debug =>
    obtain ⟨d', hd', h⟩ := bind_eq_ok_iff.1 h
    cases h
    refine ⟨r.pending ++ [.switch .debug], ?_, List.append_nil _⟩
    exact (grows_settle hd).append (.debug (misused_eq_ok_iff.1 hd') (.refl _))
  | help => cases h

theorem reads_long {name : Bytes} {value? : Option Bytes} (h : r.long name value? = .ok r') :
    Reads r (Named.ofLong? name).toList r' := by
  cases hname : Named.ofLong? name with
  | none =>
    simp only [long, hname] at h
    cases h
  | some n =>
    cases n with
    | opt o =>
      cases value? with
      | none =>
        simp only [long, hname] at h
        exact reads_collect h
      | some value =>
        simp only [long, hname] at h
        exact reads_attach h
    | switch s =>
      cases value? with
      | none =>
        simp only [long, hname] at h
        exact reads_turnOn h
      | some value =>
        simp only [long, hname] at h
        cases h

theorem reads_letters (h : r.letters bytes = .ok r') : Reads r (letterNames bytes) r' := by
  induction bytes generalizing r with
  | nil =>
    cases h
    exact .refl _
  | cons b bytes ih =>
    rw [letters] at h
    rw [letterNames]
    cases hletter : Named.ofShort? (Char.ofNat b.toNat) with
    | none =>
      rw [hletter] at h
      cases h
    | some n =>
      rw [hletter] at h
      cases n with
      | switch s =>
        obtain ⟨r₁, hr₁, h⟩ := bind_eq_ok_iff.1 h
        exact (reads_turnOn hr₁).trans (ih h)
      | opt o =>
        dsimp only at h
        split at h
        · exact reads_collect h
        · exact reads_attach h

theorem reads_takeValue (h : r.takeValue? value = some r') : Reads r [] r' := by
  obtain ⟨draft, collecting⟩ := r
  cases collecting with
  | none => cases h
  | some c =>
    rw [takeValue?] at h
    dsimp only at h
    split at h
    · cases h
      exact ⟨[], .refl _, (List.append_nil _).symm⟩
    · cases h

/-! ## The whole line -/

/-- By induction on the arguments: what was entered, and what is still to be, are the names. -/
theorem readAll_grows {args : List Bytes} (h : r.readAll args = .ok d) :
    Grows r.draft (r.pending ++ names args) d := by
  have step {r r' : Reading} {ns ns' : List Named} (hr : Reads r ns r')
      (hgrows : Grows r'.draft (r'.pending ++ ns') d) :
      Grows r.draft (r.pending ++ (ns ++ ns')) d := by
    obtain ⟨entered, hentered, heq⟩ := hr
    rw [← List.append_assoc, ← heq, List.append_assoc]
    exact hentered.append hgrows
  induction args generalizing r with
  | nil =>
    rw [names, List.append_nil]
    exact grows_settle h
  | cons argument rest ih =>
    rw [names]
    cases hargument : Argument.of argument with
    | separator =>
      cases rest with
      | nil =>
        simp only [readAll, hargument] at h
        rw [List.append_nil]
        exact grows_settle h
      | cons argument' rest =>
        simp only [readAll, hargument] at h
        cases h
    | long name value? =>
      rw [readAll_long r hargument] at h
      obtain ⟨r₁, hr₁, h⟩ := bind_eq_ok_iff.1 h
      exact step (reads_long hr₁) (ih h)
    | letters bytes =>
      rw [readAll_letters r hargument] at h
      obtain ⟨r₁, hr₁, h⟩ := bind_eq_ok_iff.1 h
      exact step (reads_letters hr₁) (ih h)
    | plain =>
      cases htake : r.takeValue? argument with
      | none =>
        simp only [readAll, hargument, htake] at h
        cases h
      | some r₁ =>
        rw [readAll_plain hargument htake] at h
        exact step (reads_takeValue htake) (ih h)

end Reading
end FrameTap.CommandLine
