import Bindings.Log
import Mathlib.Data.List.Forall2

/-!
# Lines of the log

Every event is shown by one message, and a failure by one more for each of its hints. A message is a line of the log, or
several if it has line feeds.

* `Event.Says`: the messages of an event, with their levels; `Event.says_entries`: the log shows these.
* `Text.Quotes`, `Text.quotes_quoted`: how the names of headers and functions stand in the message of a failure.
* `IsLogOf`, `isLogOf_logWith`: the log as a text is that of its messages.
-/

namespace Bindings

/-! ## Quoted names -/

namespace Text

/-- How a character stands between quotes. -/
inductive StandsAs : Char → List Char → Prop
  | quote : StandsAs '"' ['\\', '"']
  | backslash : StandsAs '\\' ['\\', '\\']
  | lineFeed : StandsAs '\n' ['\\', 'n']
  | carriageReturn : StandsAs '\r' ['\\', 'r']
  | tab : StandsAs '\t' ['\\', 't']
  | nul : StandsAs '\x00' ['\\', '0']
  /-- A character without a form of its own stands there by its number. -/
  | invisible {c : Char} : c ∉ ['"', '\\', '\n', '\r', '\t', '\x00'] → isInvisible c = true →
      StandsAs c (['\\', 'u', '\x7b'] ++ Nat.toDigits 16 c.toNat ++ ['\x7d'])
  | visible {c : Char} : c ∉ ['"', '\\', '\n', '\r', '\t', '\x00'] → isInvisible c = false → StandsAs c [c]

/-- A text stands between quotes character by character. -/
def Quotes (s quoted : String) : Prop :=
  ∃ parts, List.Forall₂ StandsAs s.toList parts ∧ quoted.toList = '"' :: parts.flatten ++ ['"']

theorem standsAs_quotedChar (c : Char) : StandsAs c (quotedChar c) := by
  unfold quotedChar
  split
  · exact .quote
  · exact .backslash
  · exact .lineFeed
  · exact .carriageReturn
  · exact .tab
  · exact .nul
  · have hc : c ∉ ['"', '\\', '\n', '\r', '\t', '\x00'] := by
      simp only [List.mem_cons, List.not_mem_nil, or_false, not_or]
      exact ⟨‹_›, ‹_›, ‹_›, ‹_›, ‹_›, ‹_›⟩
    split
    · exact .invisible hc ‹_›
    · exact .visible hc (eq_false_of_ne_true ‹_›)

theorem quotes_quoted (s : String) : Quotes s (quoted s) := by
  refine ⟨s.toList.map quotedChar, ?_, ?_⟩
  · exact List.forall₂_map_right_iff.2 (List.forall₂_same.2 fun c _ => standsAs_quotedChar c)
  · rw [quoted, String.toList_ofList, List.flatMap_def]

end Text

/-! ## Events -/

/-- What the message of a failure begins with: its own text, and after that what the reader or the file system says. -/
inductive Failure.IsTold (wording : Wording) (e : Failure) : String → Prop
  | closed : e.cause.isOpen = false → IsTold wording e e.cause.message
  | opened {rest : String} : e.cause.isOpen = true → wording e.cause = some rest →
      IsTold wording e (e.cause.message ++ ": " ++ rest)

/-- It is known what the reader or the file system says of a failure. -/
def Wording.Knows (wording : Wording) (e : Failure) : Prop :=
  e.cause.isOpen = true → (wording e.cause).isSome = true

namespace Event

/-- The messages by which an event is shown, each with its level. -/
inductive Says (wording : Wording) : Event → List (Level × String) → Prop
  | found {path : String} {hasConfig : Bool} :
      Says wording (.found path hasConfig)
        [(.debug, "DEBUG found header path=" ++ path ++ " has_config=" ++ if hasConfig then "true" else "false")]
  | unconfigured {function : String} :
      Says wording (.unconfigured function)
        [(.warn, "WARN no generator config for function function=" ++ function)]
  | transformed {function exposed : String} {inputs returns : Nat} :
      Says wording (.transformed function exposed inputs returns)
        [(.debug, "DEBUG transformed function function=" ++ function ++ " exposed=" ++ exposed ++ " inputs="
          ++ toString inputs ++ " returns=" ++ toString returns)]
  | wrote {header path : String} {functions enums : Nat} :
      Says wording (.wrote header functions enums path)
        [(.info, "INFO wrote generated header header=" ++ header ++ " functions=" ++ toString functions ++ " enums="
          ++ toString enums ++ " path=" ++ path)]
  | complete {headers functions written : Nat} :
      Says wording (.complete headers functions written)
        [(.info, "INFO generation complete headers=" ++ toString headers ++ " functions=" ++ toString functions
          ++ " written=" ++ toString written)]
  /-- A failure is told with its code and its place, `-` where that is not known, and then with its hints in order. -/
  | failed {e : Failure} {text header function : String} :
      e.IsTold wording text → Text.Quotes (e.header.getD "-") header → Text.Quotes (e.function.getD "-") function →
      Says wording (.failed e)
        ((.error, "ERROR [" ++ e.cause.code ++ "] " ++ text ++ " header=" ++ header ++ " function=" ++ function) ::
          e.hints.map fun hint => (.error, "ERROR hint: " ++ hint))

/-- The messages of an event as the log has them, each with its level. -/
def entries (wording : Wording) (e : Event) : List (Level × String) :=
  (e.messages wording).map fun message => (e.level, e.level.text ++ " " ++ message)

variable {wording : Wording}

theorem messages_failed {e : Failure} (h : wording.Knows e) :
    ∃ text, e.IsTold wording text ∧ (Event.failed e).messages wording =
      ("[" ++ e.cause.code ++ "] " ++ text ++ " header=" ++ Text.quoted (e.header.getD "-") ++ " function="
        ++ Text.quoted (e.function.getD "-")) :: e.hints.map ("hint: " ++ ·) := by
  rw [messages, failureMessages, Failure.summary]
  by_cases hopen : e.cause.isOpen = true
  · obtain ⟨rest, hrest⟩ := Option.isSome_iff_exists.1 (h hopen)
    refine ⟨_, .opened hopen hrest, ?_⟩
    rw [if_pos hopen, hrest]
    simp only [String.append_assoc]
  · refine ⟨_, .closed (eq_false_of_ne_true hopen), ?_⟩
    rw [if_neg hopen]

/-- The log shows what an event says. -/
theorem says_entries {e : Event} (h : ∀ failure, e = .failed failure → wording.Knows failure) :
    Says wording e (e.entries wording) := by
  cases e with
  | found path hasConfig =>
    have hflag : toString hasConfig = if hasConfig then "true" else "false" := by
      cases hasConfig <;> rfl
    simpa [entries, messages, level, Level.text, hflag, ← String.append_assoc] using Says.found
  | unconfigured function =>
    simpa [entries, messages, level, Level.text, ← String.append_assoc] using Says.unconfigured
  | transformed function exposed inputs returns =>
    simpa [entries, messages, level, Level.text, ← String.append_assoc] using Says.transformed
  | wrote header functions enums path =>
    simpa [entries, messages, level, Level.text, ← String.append_assoc] using Says.wrote
  | complete headers functions written =>
    simpa [entries, messages, level, Level.text, ← String.append_assoc] using Says.complete
  | failed e =>
    obtain ⟨text, htold, hmessages⟩ := messages_failed (h e rfl)
    have hsays := Says.failed htold (Text.quotes_quoted (e.header.getD "-")) (Text.quotes_quoted (e.function.getD "-"))
    rw [entries, hmessages]
    simpa [level, Level.text, Function.comp_def, ← String.append_assoc] using hsays

/-- The messages of several events, in order. -/
def SayAll (wording : Wording) (events : List Event) (entries : List (Level × String)) : Prop :=
  ∃ parts, List.Forall₂ (Says wording) events parts ∧ entries = parts.flatten

theorem sayAll_flatMap_entries {events : List Event}
    (h : ∀ failure, .failed failure ∈ events → wording.Knows failure) :
    SayAll wording events (events.flatMap (entries wording)) := by
  refine ⟨events.map (entries wording), ?_, List.flatMap_def⟩
  refine List.forall₂_map_right_iff.2 (List.forall₂_same.2 fun e he => says_entries ?_)
  rintro failure rfl
  exact h failure he

end Event

/-! ## Lines -/

/-- The lines of a text. -/
def Text.linesOf (text : String) : List String :=
  (split '\n' text.toList).map String.ofList

/-- Lines are the log of the given messages. -/
structure IsLogOf (lines messages : List String) : Prop where
  joined : "\n".intercalate lines = "\n".intercalate messages
  unbroken : ∀ line ∈ lines, '\n' ∉ line.toList
  eq_of_unbroken : (∀ message ∈ messages, '\n' ∉ message.toList) → lines = messages

namespace Text

theorem linesOf_ne_nil (text : String) : linesOf text ≠ [] := by
  simp [linesOf, split_ne_nil]

theorem intercalate_linesOf (text : String) : "\n".intercalate (linesOf text) = text := by
  have hlists : (linesOf text).map String.toList = split '\n' text.toList := by
    simp [linesOf, Function.comp_def]
  rw [← String.toList_inj, String.toList_intercalate, hlists]
  exact intercalate_split '\n' text.toList

theorem intercalate_flatMap_linesOf (texts : List String) :
    "\n".intercalate (texts.flatMap linesOf) = "\n".intercalate texts := by
  induction texts with
  | nil => rfl
  | cons text texts ih =>
    rw [List.flatMap_cons]
    cases texts with
    | nil => rw [List.flatMap_nil, List.append_nil, intercalate_linesOf, String.intercalate_singleton]
    | cons text' texts =>
      have hne : (text' :: texts).flatMap linesOf ≠ [] := by
        rw [List.flatMap_cons]
        exact fun h => linesOf_ne_nil text' (List.append_eq_nil_iff.1 h).1
      rw [String.intercalate_append_of_ne_nil (linesOf_ne_nil text) hne, ih, intercalate_linesOf,
        String.intercalate_cons_of_ne_nil (List.cons_ne_nil text' texts)]

theorem linesOf_of_notMem {text : String} (h : '\n' ∉ text.toList) : linesOf text = [text] := by
  rw [linesOf, split_of_notMem h, List.map_singleton, String.ofList_toList]

end Text

theorem isLogOf_flatMap_linesOf (messages : List String) : IsLogOf (messages.flatMap Text.linesOf) messages where
  joined := Text.intercalate_flatMap_linesOf messages
  unbroken line hline := by
    obtain ⟨message, _, hline⟩ := List.mem_flatMap.1 hline
    obtain ⟨part, hpart, rfl⟩ := List.mem_map.1 hline
    rw [String.toList_ofList]
    exact Text.notMem_of_mem_split hpart
  eq_of_unbroken h := by
    rw [List.flatMap_congr fun message hmessage => Text.linesOf_of_notMem (h message hmessage), List.flatMap_singleton']

/-- The log of events is that of their messages. -/
theorem isLogOf_logWith (wording : Wording) (verbose : Bool) (events : List Event) :
    IsLogOf (logWith wording verbose events)
      (((events.filter (Event.isShown verbose)).flatMap (Event.entries wording)).map (·.2)) := by
  have hlines (e : Event) : e.lines wording = ((e.entries wording).map (·.2)).flatMap Text.linesOf := by
    rw [Event.entries, List.map_map, List.flatMap_map]
    rfl
  have hlog : logWith wording verbose events =
      (((events.filter (Event.isShown verbose)).flatMap (Event.entries wording)).map (·.2)).flatMap Text.linesOf := by
    rw [logWith, List.map_flatMap, List.flatMap_assoc]
    exact List.flatMap_congr fun e _ => hlines e
  rw [hlog]
  exact isLogOf_flatMap_linesOf _

end Bindings
