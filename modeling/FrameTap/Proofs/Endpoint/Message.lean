import FrameTap.Proofs.Endpoint
import FrameTap.Proofs.Text.Quoted

/-!
# What a message tells

The message about a text that names no endpoint quotes this text and gives the reason.  The text
may be anything, so it might try to look like a message of its own or to break the line.  It
cannot: the quotation ends where the text ends, and the message is one line of text that shows.
-/

namespace FrameTap.Endpoint

open ByteLiteral (isPrintable)

theorem isPrintable_of_mem_reason {reason : Reason} {c : Char} (h : c ∈ reason.message) :
    isPrintable c = true := by
  have hall : reason.message.all isPrintable = true := by
    cases reason <;> decide
  exact List.all_eq_true.1 hall c h

theorem shows_of_mem_message {e : ParseError} {c : Char} (h : c ∈ e.message) : Text.Shows c := by
  have hfront : "invalid endpoint ".toList.all isPrintable = true := by decide
  have hcolon : ": ".toList.all isPrintable = true := by decide
  unfold ParseError.message Text.quote at h
  simp only [List.mem_append, List.mem_cons, List.not_mem_nil, or_false] at h
  rcases h with ((h | (rfl | h) | rfl) | h) | h
  · exact Text.shows_of_isPrintable (List.all_eq_true.1 hfront c h)
  · exact Text.shows_of_isPrintable rfl
  · obtain ⟨d, -, hd⟩ := List.mem_flatMap.1 h
    exact Text.shows_of_mem_escape hd
  · exact Text.shows_of_isPrintable rfl
  · exact Text.shows_of_isPrintable (List.all_eq_true.1 hcolon c h)
  · exact Text.shows_of_isPrintable (isPrintable_of_mem_reason h)

/-- Behind the words in front, the message is the quotation and the reason. -/
theorem message_eq (e : ParseError) :
    e.message = "invalid endpoint ".toList ++ (Text.quote e.text ++ (": ".toList ++
      e.reason.message)) := by
  unfold ParseError.message
  rw [List.append_assoc, List.append_assoc]

theorem text_eq_of_message_eq {e f : ParseError} (h : e.message = f.message) : e.text = f.text := by
  rw [message_eq, message_eq] at h
  have hquoted := congrArg Text.unquote? (List.append_cancel_left h)
  rw [Text.unquote?_quote, Text.unquote?_quote] at hquoted
  exact congrArg Prod.fst (Option.some.inj hquoted)

/-- Two texts with the same message are the same.  Between its quotes, the message about a text
holds what this text is read back from, whatever follows the closing quote, and no double quote
stands there but in an escape.  The whole is a line without control characters and without white
space other than the space. -/
theorem message_readable :
    (∀ s t e f, parse s = .error e → parse t = .error f → e.message = f.message → s = t) ∧
      ∀ s e, parse s = .error e → ∃ body,
        e.message = "invalid endpoint \"".toList ++ body ++ "\": ".toList ++ e.reason.message ∧
          (∀ rest, Text.unquote? ('"' :: body ++ '"' :: rest) = some (s, rest)) ∧
          Text.hasBareQuote body = false ∧ '\n' ∉ e.message ∧
          ∀ c ∈ e.message, ¬ Text.IsControl c ∧ (Text.WhiteSpace c → c = ' ') := by
  have htext : ∀ {s e}, parse s = .error e → e.text = s := by
    intro s e h
    obtain ⟨reason, -, rfl⟩ := mapError_eq_error_iff.1 h
    rfl
  constructor
  · intro s t e f he hf hmessage
    rw [← htext he, ← htext hf]
    exact text_eq_of_message_eq hmessage
  · intro s e he
    refine ⟨s.flatMap Text.escape, ?_, fun rest => Text.readQuoted_quoted s rest,
      Text.hasBareQuote_flatMap_escape s, ?_, fun c hc => shows_of_mem_message hc⟩
    · rw [message_eq, htext he, Text.quote]
      simp
    · intro hbreak
      apply (shows_of_mem_message hbreak).1
      unfold Text.IsControl
      decide

end FrameTap.Endpoint
