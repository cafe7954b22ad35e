import FrameTap.CommandLine.Draft
import FrameTap.Proofs.Except

/-!
# What an option adds to a draft

An occurrence of an option either is refused or changes the one field of the draft that
belongs to it.  `Entered` lists the changes, and `enter_eq_ok_iff` says that there are no
others.  Whether the occurrence succeeds is a matter of its values alone, apart from options
that may occur once only: these need their field to be open.  So what an occurrence makes of an
empty draft it adds to any draft in which its option is open (`enter_again`), and drafts are put
together field by field (`merge`).
-/

namespace FrameTap.CommandLine.Draft

/-- The draft that an occurrence with these values makes of `d`. -/
inductive Entered (d : Draft) : Opt → List Bytes → Draft → Prop where
  | endpoint {values : List Bytes} {es : List Endpoint}
      (h : (spread values).mapM readEndpoint = .ok es) :
      Entered d .endpoint values { d with endpoint := some (d.endpoint.getD [] ++ es) }
  | port {values : List Bytes} {ports : List UInt16}
      (h : (spread values).mapM readPort = .ok ports) :
      Entered d .port values { d with port := some (d.port.getD [] ++ ports) }
  | host {value : Bytes} {rest : List Bytes} {t : Text} (hopen : ¬ d.host.isSome)
      (h : textOf value = .ok t) : Entered d .host (value :: rest) { d with host := some t }
  | format {value : Bytes} {rest : List Bytes} {format : Format} (hopen : ¬ d.format.isSome)
      (h : readFormat value = .ok format) :
      Entered d .format (value :: rest) { d with format := some format }
  | pollInterval {value : Bytes} {rest : List Bytes} {ms : Nat} (hopen : ¬ d.pollMillis.isSome)
      (h : readPollMillis value = .ok ms) :
      Entered d .pollInterval (value :: rest) { d with pollMillis := some ms }

variable {d d' : Draft} {o : Opt} {value : Bytes} {values : List Bytes}

theorem enter_nil (d : Draft) (o : Opt) : d.enter o [] = .error (.valueRequired o) := rfl

theorem entered_of_enter (h : d.enter o (value :: values) = .ok d') :
    Entered d o (value :: values) d' := by
  cases o with
  | endpoint =>
    obtain ⟨es, hes, h⟩ := bind_eq_ok_iff.1 h
    cases h
    exact .endpoint hes
  | port =>
    obtain ⟨ports, hports, h⟩ := bind_eq_ok_iff.1 h
    cases h
    exact .port hports
  | host =>
    obtain ⟨hopen, h⟩ := guard_bind_eq_ok_iff.1 h
    obtain ⟨t, ht, h⟩ := bind_eq_ok_iff.1 h
    cases h
    exact .host hopen ht
  | format =>
    obtain ⟨hopen, h⟩ := guard_bind_eq_ok_iff.1 h
    obtain ⟨format, hformat, h⟩ := bind_eq_ok_iff.1 h
    cases h
    exact .format hopen hformat
  | pollInterval =>
    obtain ⟨hopen, h⟩ := guard_bind_eq_ok_iff.1 h
    obtain ⟨ms, hms, h⟩ := bind_eq_ok_iff.1 h
    cases h
    exact .pollInterval hopen hms

theorem Entered.enter_eq (h : Entered d o (value :: values) d') :
    d.enter o (value :: values) = .ok d' := by
  cases h with
  | endpoint h => exact bind_eq_ok_iff.2 ⟨_, h, rfl⟩
  | port h => exact bind_eq_ok_iff.2 ⟨_, h, rfl⟩
  | host hopen h => exact guard_bind_eq_ok_iff.2 ⟨hopen, bind_eq_ok_iff.2 ⟨_, h, rfl⟩⟩
  | format hopen h => exact guard_bind_eq_ok_iff.2 ⟨hopen, bind_eq_ok_iff.2 ⟨_, h, rfl⟩⟩
  | pollInterval hopen h => exact guard_bind_eq_ok_iff.2 ⟨hopen, bind_eq_ok_iff.2 ⟨_, h, rfl⟩⟩

theorem enter_eq_ok_iff : d.enter o values = .ok d' ↔ values ≠ [] ∧ Entered d o values d' := by
  cases values with
  | nil => simp [enter_nil]
  | cons value values =>
    constructor
    · intro h
      exact ⟨List.cons_ne_nil value values, entered_of_enter h⟩
    · rintro ⟨-, h⟩
      exact h.enter_eq

/-! ## What a draft holds -/

/-- Something was entered under the name. -/
def holds (d : Draft) : Named → Bool
  | .opt .endpoint => d.endpoint.isSome
  | .opt .host => d.host.isSome
  | .opt .port => d.port.isSome
  | .opt .format => d.format.isSome
  | .opt .pollInterval => d.pollMillis.isSome
  | .switch .debug => d.debug
  | .switch .help => false

theorem holds_empty (n : Named) : ({} : Draft).holds n = false := by
  rcases n with o | s
  · cases o <;> rfl
  · cases s <;> rfl

theorem Entered.holds (h : Entered d o values d') (n : Named) :
    d'.holds n = (d.holds n || n == .opt o) := by
  cases h <;> rcases n with (_ | _ | _ | _ | _) | (_ | _) <;> simp [Draft.holds]

theorem holds_enterDebug (h : d.enterDebug = .ok d') (n : Named) :
    d'.holds n = (d.holds n || n == .switch .debug) := by
  rw [Draft.enterDebug] at h
  split at h
  · cases h
  · cases h
    rcases n with (_ | _ | _ | _ | _) | (_ | _) <;> simp [Draft.holds]

/-! ## From an empty draft to any other -/

/-- The draft with what another one says besides: its values behind those that are there, and
what can be said once only where it is open. -/
def merge (d d' : Draft) : Draft where
  endpoint := d.endpoint.merge (· ++ ·) d'.endpoint
  host := d.host.or d'.host
  port := d.port.merge (· ++ ·) d'.port
  format := d.format.or d'.format
  pollMillis := d.pollMillis.or d'.pollMillis
  debug := d.debug || d'.debug

theorem merge_empty (d : Draft) : d.merge {} = d := by
  simp [merge]

theorem empty_merge (d : Draft) : ({} : Draft).merge d = d := by
  simp [merge]

theorem merge_assoc (d d' d'' : Draft) : (d.merge d').merge d'' = d.merge (d'.merge d'') := by
  have happend {α : Type} (x y z : Option (List α)) :
      (x.merge (· ++ ·) y).merge (· ++ ·) z = x.merge (· ++ ·) (y.merge (· ++ ·) z) :=
    Std.Associative.assoc x y z
  simp only [merge, happend, Option.or_assoc, Bool.or_assoc]

theorem holds_merge (d d' : Draft) (n : Named) :
    (d.merge d').holds n = (d.holds n || d'.holds n) := by
  rcases n with (_ | _ | _ | _ | _) | (_ | _)
  all_goals simp [Draft.holds, merge]

theorem endpoint_merge (d d' : Draft) :
    (d.merge d').endpoint.getD [] = d.endpoint.getD [] ++ d'.endpoint.getD [] := by
  simp only [merge]
  cases d.endpoint <;> cases d'.endpoint <;> simp

theorem Entered.again {d₁ : Draft} (h : Entered {} o values d₁)
    (hopen : d.holds (.opt o) = true → o.isMany = true) : Entered d o values (d.merge d₁) := by
  cases h with
  | @endpoint _ es h =>
    have hmerge : d.merge { endpoint := some es } =
        { d with endpoint := some (d.endpoint.getD [] ++ es) } := by
      cases hd : d.endpoint <;> simp [merge, hd]
    exact hmerge ▸ .endpoint h
  | @port _ ports h =>
    have hmerge : d.merge { port := some ports } =
        { d with port := some (d.port.getD [] ++ ports) } := by
      cases hd : d.port <;> simp [merge, hd]
    exact hmerge ▸ .port h
  | @host _ _ t _ h =>
    have hnone : ¬ d.host.isSome := fun hs => nomatch hopen hs
    have hmerge : d.merge { host := some t } = { d with host := some t } := by
      simp [merge, Option.not_isSome_iff_eq_none.1 hnone]
    exact hmerge ▸ .host hnone h
  | @format _ _ format _ h =>
    have hnone : ¬ d.format.isSome := fun hs => nomatch hopen hs
    have hmerge : d.merge { format := some format } = { d with format := some format } := by
      simp [merge, Option.not_isSome_iff_eq_none.1 hnone]
    exact hmerge ▸ .format hnone h
  | @pollInterval _ _ ms _ h =>
    have hnone : ¬ d.pollMillis.isSome := fun hs => nomatch hopen hs
    have hmerge : d.merge { pollMillis := some ms } = { d with pollMillis := some ms } := by
      simp [merge, Option.not_isSome_iff_eq_none.1 hnone]
    exact hmerge ▸ .pollInterval hnone h

/-- What an option alone makes of an empty draft it adds to any draft where it is open. -/
theorem enter_again {d₁ : Draft} (h : ({} : Draft).enter o values = .ok d₁)
    (hopen : d.holds (.opt o) = true → o.isMany = true) :
    d.enter o values = .ok (d.merge d₁) := by
  obtain ⟨hne, hentered⟩ := enter_eq_ok_iff.1 h
  exact enter_eq_ok_iff.2 ⟨hne, hentered.again hopen⟩

theorem enterDebug_again {d₁ : Draft} (h : ({} : Draft).enterDebug = .ok d₁)
    (hopen : d.holds (.switch .debug) = false) : d.enterDebug = .ok (d.merge d₁) := by
  have hoff : d.debug = false := hopen
  cases h
  simp [enterDebug, merge, hoff]

/-! ## One name alone -/

/-- What the draft holds under one name. -/
def only (d : Draft) : Named → Draft
  | .opt .endpoint => { endpoint := d.endpoint }
  | .opt .host => { host := d.host }
  | .opt .port => { port := d.port }
  | .opt .format => { format := d.format }
  | .opt .pollInterval => { pollMillis := d.pollMillis }
  | .switch .debug => { debug := d.debug }
  | .switch .help => {}

/-- Nothing else is in a draft. -/
theorem eq_of_only (h : ∀ n, d.only n = d'.only n) : d = d' := by
  have hendpoint := h (.opt .endpoint)
  have hhost := h (.opt .host)
  have hport := h (.opt .port)
  have hformat := h (.opt .format)
  have hpoll := h (.opt .pollInterval)
  have hdebug := h (.switch .debug)
  cases d
  cases d'
  simp_all [only]

theorem only_merge (d d' : Draft) (n : Named) :
    (d.merge d').only n = (d.only n).merge (d'.only n) := by
  rcases n with (_ | _ | _ | _ | _) | (_ | _)
  all_goals simp [only, merge]

theorem only_empty (n : Named) : ({} : Draft).only n = {} := by
  rcases n with (_ | _ | _ | _ | _) | (_ | _)
  all_goals rfl

theorem Entered.only (h : Entered {} o values d') (n : Named) :
    d'.only n = if n = .opt o then d' else {} := by
  cases h <;> rcases n with (_ | _ | _ | _ | _) | (_ | _) <;> rfl

theorem only_enterDebug (h : ({} : Draft).enterDebug = .ok d') (n : Named) :
    d'.only n = if n = .switch .debug then d' else {} := by
  cases h
  rcases n with (_ | _ | _ | _ | _) | (_ | _)
  all_goals rfl

/-- Two occurrences of an option that takes several values enter what one does with the values of
both. -/
theorem Entered.append {values' : List Bytes} {d₁ d₂ : Draft} (h : Entered {} o values d₁)
    (h' : Entered {} o values' d₂) (hmany : o.isMany = true) :
    Entered {} o (values ++ values') (d₁.merge d₂) := by
  have hspread : spread (values ++ values') = spread values ++ spread values' :=
    List.flatMap_append
  cases h with
  | endpoint h =>
    cases h' with
    | endpoint h' => exact .endpoint (hspread ▸ mapM_append_eq_ok h h')
  | port h =>
    cases h' with
    | port h' => exact .port (hspread ▸ mapM_append_eq_ok h h')
  | host | format | pollInterval => cases hmany

end FrameTap.CommandLine.Draft
