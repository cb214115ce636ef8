import Mathlib.Data.List.DropRight
import Mathlib.Data.List.Nodup
import TypedScalar.Log.Run
import TypedScalar.Proofs.Association

/-! Which setup is in effect after any run of setups and log calls. The root has one handler at most, and its
level and handler are those of the last forced setup that succeeded, or else of the first one that did. Each
record that the setup in effect admits is written once, to the stream of that setup, and nothing else is
written. A setup that fails changes nothing, but for one: a forced one with a known level whose layout is not
accepted has taken the handler off by the time it fails, and what succeeded before it no longer counts. -/

namespace TypedScalar.Log

namespace Setup

variable {f : Formatter} {s : Setup}

def handler (s : Setup) : Handler := ⟨s.stream, s.layoutText⟩

/-- Whether a setup takes off the handler that is there and then fails. -/
def strips (f : Formatter) (s : Setup) : Bool := s.force && s.level?.isSome && !f.accepts s.layoutText

/-- Whether records of a level are severe enough for a setup. -/
def admits (s : Setup) (level : Level) : Bool := s.level?.any fun l => l.severity ≤ level.severity

end Setup

/-! ### Histories -/

def Step.strips (f : Formatter) : Step → Bool
  | .setup s => s.strips f
  | .log .. => false

/-- Steps with their answers, the earliest first. -/
abbrev History := List (Step × StepAnswer)

/-- The setup of a step, if the step is one and succeeded. -/
def success? : Step × StepAnswer → Option Setup
  | (.setup s, .configured ..) => some s
  | _ => none

def successes (h : History) : List Setup := h.filterMap success?

/-- Which of the setups that succeeded counts: the last forced one, or else the first. -/
def effective? (calls : List Setup) : Option Setup := (calls.filter (·.force)).getLast?.or calls.head?

/-- The setup in effect after a history, of those that succeeded since the last one that stripped the root. -/
def inEffect? (f : Formatter) (h : History) : Option Setup :=
  effective? (successes (h.rtakeWhile fun x => !x.1.strips f))

variable {f : Formatter} {s : Setup} {h : History} {x : Step × StepAnswer} {calls : List Setup}

theorem effective?_snoc (calls : List Setup) (s : Setup) :
    effective? (calls ++ [s]) = if s.force then some s else (effective? calls).or (some s) := by
  rw [effective?, effective?, List.filter_append]
  cases hforce : s.force with
  | true => simp [hforce]
  | false => simp [hforce, List.head?_append]

theorem successes_snoc (h : History) (x : Step × StepAnswer) :
    successes (h ++ [x]) = successes h ++ (success? x).toList := by
  rw [successes, List.filterMap_append]
  cases hx : success? x <;> simp [successes, hx]

theorem inEffect?_nil (f : Formatter) : inEffect? f [] = none := by
  rw [inEffect?, List.rtakeWhile_nil]
  rfl

theorem inEffect?_of_strips (hx : x.1.strips f = true) : inEffect? f (h ++ [x]) = none := by
  rw [inEffect?, List.rtakeWhile_concat_neg _ _ _ (by simp [hx])]
  rfl

theorem inEffect?_snoc (hx : x.1.strips f = false) :
    inEffect? f (h ++ [x]) =
      match success? x with
      | none => inEffect? f h
      | some s => if s.force then some s else (inEffect? f h).or (some s) := by
  rw [inEffect?, List.rtakeWhile_concat_pos _ _ _ (by simp [hx]), successes_snoc]
  cases hs : success? x with
  | none => rw [Option.toList_none, List.append_nil, inEffect?]
  | some s => rw [Option.toList_some, effective?_snoc, inEffect?]

/-- Whether no call took a handler off and failed: a call that strips the root comes before all that succeed. -/
def Undisturbed (f : Formatter) (h : History) : Prop :=
  ∀ n (hn : n < h.length), h[n].1.strips f = true → successes (h.take n) = []

instance : Decidable (Undisturbed f h) :=
  inferInstanceAs (Decidable (∀ n (hn : n < h.length), h[n].1.strips f = true → successes (h.take n) = []))

theorem Undisturbed.of_append {after : History} (hh : Undisturbed f (h ++ after)) : Undisturbed f h := by
  intro n hn hx
  have hlt : n < (h ++ after).length := by
    rw [List.length_append]
    omega
  have hnone := hh n hlt (by rwa [List.getElem_append_left hn])
  rwa [List.take_append_of_le_length hn.le] at hnone

theorem Undisturbed.inEffect? (hh : Undisturbed f h) (hrefused : ∀ x ∈ h, x.1.strips f = true → success? x = none) :
    inEffect? f h = effective? (successes h) := by
  -- from the end of the history: the last call decides whether the setup in effect stays, changes or goes
  induction h using List.reverseRecOn with
  | nil => rfl
  | append_singleton h x ih =>
    rw [List.forall_mem_append, List.forall_mem_singleton] at hrefused
    rw [successes_snoc]
    cases hx : x.1.strips f with
    | true =>
      have hnone := hh h.length (by simp) (by simpa using hx)
      rw [List.take_left' rfl] at hnone
      rw [inEffect?_of_strips hx, hnone, hrefused.2 hx]
      rfl
    | false =>
      rw [inEffect?_snoc hx, ih hh.of_append hrefused.1]
      cases success? x with
      | none => rw [Option.toList_none, List.append_nil]
      | some s => rw [Option.toList_some, effective?_snoc]

/-! ### Lines -/

/-- What a step is due to write while a setup is in effect: a record that the setup admits goes to its stream
as one line, if its layout can be filled in. -/
def due (f : Formatter) (now : Option Setup) : Step → List (String × String)
  | .setup _ => []
  | .log name level message =>
    match now with
    | none => []
    | some s =>
      if s.admits level then
        ((f.fill? s.layoutText ⟨level, loggerName name, message⟩).map fun line => (s.stream, line ++ "\n")).toList
      else []

/-- What the rest of a history is due to write. -/
def linesFrom (f : Formatter) (before : History) : History → List (String × String)
  | [] => []
  | x :: rest => due f (inEffect? f before) x.1 ++ linesFrom f (before ++ [x]) rest

/-- The lines of a history, each with its stream. -/
def lines (f : Formatter) (h : History) : List (String × String) := linesFrom f [] h

/-- The text that lines come to on a stream. -/
def textOn (stream : String) (lines : List (String × String)) : String :=
  String.join ((lines.filter (·.1 = stream)).map Prod.snd)

theorem linesFrom_snoc (before h : History) (x : Step × StepAnswer) :
    linesFrom f before (h ++ [x]) = linesFrom f before h ++ due f (inEffect? f (before ++ h)) x.1 := by
  induction h generalizing before with
  | nil => simp [linesFrom]
  | cons y rest ih =>
    rw [List.cons_append, linesFrom, ih, linesFrom, List.append_assoc, List.append_assoc, List.singleton_append]

theorem lines_snoc (h : History) (x : Step × StepAnswer) :
    lines f (h ++ [x]) = lines f h ++ due f (inEffect? f h) x.1 := linesFrom_snoc [] h x

theorem textOn_append (stream : String) (a b : List (String × String)) :
    textOn stream (a ++ b) = textOn stream a ++ textOn stream b := by
  rw [textOn, List.filter_append, List.map_append, String.join_append, textOn, textOn]

theorem textOn_singleton (stream : String) (line : String × String) :
    textOn stream [line] = if line.1 = stream then line.2 else "" := by
  by_cases hline : line.1 = stream <;> simp [textOn, hline]

namespace Root

variable {r : Root} {stream other : String} {record : Record}

def streamNames (r : Root) : List String := r.streams.map Prod.fst

/-- What was written to a stream. -/
def text (r : Root) (stream : String) : String := (r.streams.lookup stream).getD ""

theorem mem_streamNames_iff : stream ∈ r.streamNames ↔ ∃ text, r.streams.lookup stream = some text := by
  rw [streamNames, ← Option.isSome_iff_exists, List.lookup_isSome_iff, List.mem_map]
  exact exists_congr fun x => and_congr_right' (by rw [beq_iff_eq, eq_comm])

theorem withStream_eq (r : Root) (stream : String) :
    r.withStream stream =
      { r with streams := if stream ∈ r.streamNames then r.streams else r.streams ++ [(stream, "")] } := by
  have hany : r.streams.any (·.1 == stream) = true ↔ stream ∈ r.streamNames := by simp [streamNames]
  rw [withStream]
  by_cases hknown : stream ∈ r.streamNames
  · rw [if_pos (hany.2 hknown), if_pos hknown]
  · rw [if_neg (mt hany.1 hknown), if_neg hknown]

theorem level_withStream : (r.withStream stream).level = r.level := by rw [withStream_eq]

theorem handlers_withStream : (r.withStream stream).handlers = r.handlers := by rw [withStream_eq]

theorem streamNames_withStream :
    (r.withStream stream).streamNames =
      if stream ∈ r.streamNames then r.streamNames else r.streamNames ++ [stream] := by
  rw [withStream_eq, streamNames]
  split_ifs
  · rfl
  · rw [List.map_append, List.map_singleton, streamNames]

theorem text_withStream : (r.withStream stream).text other = r.text other := by
  rw [withStream_eq, text, text]
  split_ifs with hknown
  · rfl
  · rw [List.lookup_append]
    cases hother : r.streams.lookup other with
    | some text => rfl
    | none =>
      rw [Option.none_or, List.lookup_singleton]
      split_ifs <;> rfl

theorem streamNames_write (r : Root) (stream line : String) :
    (r.write stream line).streamNames = r.streamNames := by
  rw [write, streamNames, streamNames, List.map_map]
  refine List.map_congr_left fun x _ => ?_
  rw [Function.comp_apply]
  split_ifs <;> rfl

theorem lookup_write (r : Root) (stream line other : String) :
    (r.write stream line).streams.lookup other =
      (r.streams.lookup other).map fun text => if other = stream then text ++ line else text := by
  have hmap : (r.write stream line).streams =
      r.streams.map fun x => (x.1, if x.1 = stream then x.2 ++ line else x.2) := by
    refine List.map_congr_left fun x _ => ?_
    split_ifs <;> rfl
  rw [hmap, Association.lookup_mapValues fun name text => if name = stream then text ++ line else text]

theorem text_write (hstream : stream ∈ r.streamNames) (line : String) :
    (r.write stream line).text other = r.text other ++ if stream = other then line else "" := by
  rw [text, lookup_write, text]
  by_cases hother : other = stream
  · subst hother
    obtain ⟨text, htext⟩ := mem_streamNames_iff.1 hstream
    simp [htext]
  · simp [hother, Ne.symm hother]

/-! ### Steps -/

/-- All that a setup can come to. -/
inductive SettingUp (f : Formatter) (r : Root) (s : Setup) : StepAnswer × Root → Prop
  | unknown (hlevel : s.level? = none) : SettingUp f r s (.refused (.invalidLevel s.level), r.withStream s.stream)
  | kept {level : Level} (hlevel : s.level? = some level) (hforce : s.force = false) (hr : r.handlers ≠ []) :
    SettingUp f r s (.configured r.level r.handlers.length, r.withStream s.stream)
  | replaced {level : Level} (hlevel : s.level? = some level) (hr : s.force = true ∨ r.handlers = [])
      (haccepts : f.accepts s.layoutText = true) :
    SettingUp f r s (.configured level 1, { r.withStream s.stream with handlers := [s.handler], level := level })
  | unaccepted {level : Level} (hlevel : s.level? = some level) (hr : s.force = true ∨ r.handlers = [])
      (haccepts : f.accepts s.layoutText = false) :
    SettingUp f r s (.refused (.invalidFormat s.layoutText), { r.withStream s.stream with handlers := [] })

theorem step_setup (f : Formatter) (r : Root) (s : Setup) : SettingUp f r s (r.step f (.setup s)) := by
  rw [step, configure]
  cases hlevel : s.level? with
  | none => exact .unknown hlevel
  | some level =>
    by_cases hr : s.force = true ∨ r.handlers = []
    · have hnone : (if s.force then { r.withStream s.stream with handlers := [] } else r.withStream s.stream) =
          { r.withStream s.stream with handlers := [] } := by
        rcases hr with hforce | hr
        · rw [if_pos hforce]
        · rw [withStream_eq, hr, ite_self]
      cases haccepts : f.accepts s.layoutText with
      | true => simpa [hnone, Setup.handler] using SettingUp.replaced hlevel hr haccepts
      | false => simpa [hnone] using SettingUp.unaccepted hlevel hr haccepts
    · obtain ⟨hforce, hr⟩ := not_or.1 hr
      have hkept := SettingUp.kept (f := f) hlevel (Bool.eq_false_iff.2 hforce) hr
      simpa [level_withStream, handlers_withStream, hforce, hr] using hkept

/-- A setup that fails leaves the handlers alone unless it strips the root, and the rest in any case. -/
theorem step_refused {e : Error} {r' : Root} (h : r.step f (.setup s) = (.refused e, r')) :
    r'.level = r.level ∧ (∀ stream, r'.text stream = r.text stream) ∧
      r'.handlers = if s.strips f then [] else r.handlers := by
  have hstep := step_setup f r s
  generalize r.step f (.setup s) = result at hstep h
  cases hstep with
  | unknown hunknown =>
    obtain ⟨-, rfl⟩ := Prod.mk.inj h
    exact ⟨level_withStream, fun stream => text_withStream, by simp [handlers_withStream, Setup.strips, hunknown]⟩
  | kept | replaced => cases h
  | unaccepted hknown hr haccepts =>
    obtain ⟨-, rfl⟩ := Prod.mk.inj h
    refine ⟨level_withStream, fun stream => text_withStream, ?_⟩
    cases hforce : s.force with
    | true => simp [Setup.strips, hforce, hknown, haccepts]
    | false => simp [Setup.strips, hforce, hr.resolve_left (by simp [hforce])]

theorem emit_of_nil (hr : r.handlers = []) : r.emit f record = r := by
  rw [emit, hr]
  split_ifs <;> rfl

theorem emit_of_handler {handler : Handler} (hr : r.handlers = [handler]) :
    r.emit f record =
      if r.isEnabledFor record.level then
        match f.fill? handler.layout record with
        | some line => r.write handler.stream (line ++ "\n")
        | none => r
      else r := by
  rw [emit, hr]
  rfl

/-- Whether a root is as a setup in effect left it, or has no handler where none is in effect. -/
structure Obeys (r : Root) (now : Option Setup) : Prop where
  handlers : r.handlers = (now.map Setup.handler).toList
  level : ∀ s, now = some s → s.level? = some r.level
  known : ∀ s, now = some s → s.stream ∈ r.streamNames

variable {now : Option Setup}

theorem Obeys.eq_none_iff (hr : r.Obeys now) : now = none ↔ r.handlers = [] := by
  rw [hr.handlers]
  cases now <;> simp

theorem obeys_none (hr : r.handlers = []) : r.Obeys none := ⟨hr, nofun, nofun⟩

theorem Obeys.withStream (hr : r.Obeys now) (stream : String) : (r.withStream stream).Obeys now := by
  refine ⟨handlers_withStream.trans hr.handlers, fun s hs => ?_, fun s hs => ?_⟩
  · rw [level_withStream]
    exact hr.level s hs
  · rw [streamNames_withStream]
    split_ifs
    · exact hr.known s hs
    · exact List.mem_append_left _ (hr.known s hs)

theorem mem_streamNames_withStream (r : Root) (stream : String) : stream ∈ (r.withStream stream).streamNames := by
  rw [streamNames_withStream]
  split_ifs with hknown
  · exact hknown
  · exact List.mem_append_right _ (List.mem_singleton_self stream)

/-- A record changes nothing but the text that it is due to write. -/
theorem Obeys.emit (hr : r.Obeys now) (name : String) (level : Level) (message : String) :
    let r' := (r.step f (.log name level message)).2
    r'.level = r.level ∧ r'.handlers = r.handlers ∧ r'.streamNames = r.streamNames ∧
      ∀ stream, r'.text stream = r.text stream ++ textOn stream (due f now (.log name level message)) := by
  intro r'
  have hr' : r' = r.emit f ⟨level, loggerName name, message⟩ := rfl
  cases now with
  | none =>
    rw [hr', emit_of_nil hr.handlers]
    exact ⟨rfl, rfl, rfl, fun stream => (String.append_empty).symm⟩
  | some s =>
    have henabled : r.isEnabledFor level = s.admits level := by
      rw [Setup.admits, hr.level s rfl, isEnabledFor, Option.any_some]
    rw [hr', emit_of_handler hr.handlers, due, henabled]
    cases s.admits level with
    | false => exact ⟨rfl, rfl, rfl, fun stream => (String.append_empty).symm⟩
    | true =>
      rw [if_pos rfl, if_pos rfl, Setup.handler]
      cases f.fill? s.layoutText ⟨level, loggerName name, message⟩ with
      | none => exact ⟨rfl, rfl, rfl, fun stream => (String.append_empty).symm⟩
      | some line =>
        refine ⟨rfl, rfl, streamNames_write _ _ _, fun stream => ?_⟩
        rw [text_write (hr.known s rfl), Option.map_some, Option.toList_some, textOn_singleton]

/-! ### Runs -/

/-- Whether a root is what a history has made of it, from before the first setup on. -/
structure Follows (r : Root) (f : Formatter) (h : History) : Prop where
  obeys : r.Obeys (inEffect? f h)
  untouched : successes h = [] → r.level = unconfigured.level
  refused : ∀ x ∈ h, x.1.strips f = true → success? x = none
  nodup : r.streamNames.Nodup
  texts : ∀ stream, r.text stream = textOn stream (lines f h)

theorem follows_unconfigured (f : Formatter) : unconfigured.Follows f [] := by
  refine ⟨inEffect?_nil f ▸ obeys_none rfl, fun _ => rfl, by simp, List.nodup_singleton _, fun stream => ?_⟩
  rw [text, unconfigured, List.lookup_singleton]
  split_ifs <;> rfl

theorem nodup_withStream (hr : r.streamNames.Nodup) (stream : String) :
    (r.withStream stream).streamNames.Nodup := by
  rw [streamNames_withStream]
  split_ifs with hknown
  · exact hr
  · exact List.nodup_append.2 ⟨hr, List.nodup_singleton _, by simpa using fun _ h => ne_of_mem_of_not_mem h hknown⟩

theorem Follows.of_streams {r' : Root} {answer : StepAnswer} (hr : r.Follows f h)
    (hobeys : r'.Obeys (inEffect? f (h ++ [(.setup s, answer)])))
    (huntouched : successes (h ++ [(.setup s, answer)]) = [] → r'.level = r.level)
    (hrefused : s.strips f = true → success? (.setup s, answer) = none)
    (hstreams : r'.streams = (r.withStream s.stream).streams) : r'.Follows f (h ++ [(.setup s, answer)]) := by
  refine ⟨hobeys, fun hnone => ?_, ?_, ?_, fun stream => ?_⟩
  · rw [huntouched hnone]
    rw [successes_snoc, List.append_eq_nil_iff] at hnone
    exact hr.untouched hnone.1
  · exact List.forall_mem_append.2 ⟨hr.refused, List.forall_mem_singleton.2 hrefused⟩
  · have hnames : r'.streamNames = (r.withStream s.stream).streamNames := by rw [streamNames, hstreams, streamNames]
    exact hnames ▸ nodup_withStream hr.nodup _
  · have htext : r'.text stream = (r.withStream s.stream).text stream := by rw [text, hstreams, text]
    rw [htext, text_withStream, hr.texts, lines_snoc, due, List.append_nil]

theorem Follows.setup (hr : r.Follows f h) (s : Setup) :
    (r.step f (.setup s)).2.Follows f (h ++ [(.setup s, (r.step f (.setup s)).1)]) := by
  have hstep := step_setup f r s
  generalize r.step f (.setup s) = result at hstep
  have hobeys := hr.obeys.withStream s.stream
  cases hstep with
  | unknown hunknown =>
    refine hr.of_streams ?_ (fun _ => level_withStream) (fun _ => rfl) rfl
    rw [inEffect?_snoc (by simp [Step.strips, Setup.strips, hunknown])]
    exact hobeys
  | kept hknown hforce hhandlers =>
    refine hr.of_streams ?_ (fun _ => level_withStream) (by simp [Setup.strips, hforce]) rfl
    obtain ⟨now, hnow⟩ := Option.ne_none_iff_exists'.1 (mt hr.obeys.eq_none_iff.1 hhandlers)
    rw [inEffect?_snoc (by simp [Step.strips, Setup.strips, hforce])]
    simpa [success?, hforce, hnow] using hobeys
  | replaced hknown hhandlers haccepts =>
    refine hr.of_streams ?_ (fun hnone => ?_) (by simp [Setup.strips, haccepts]) rfl
    · -- a setup takes effect because it is forced, or because none is in effect so far
      have hnow : (if s.force then some s else (inEffect? f h).or (some s)) = some s := by
        rcases hhandlers with hforce | hhandlers
        · rw [if_pos hforce]
        · rw [hr.obeys.eq_none_iff.2 hhandlers, Option.none_or, ite_self]
      rw [inEffect?_snoc (by simp [Step.strips, Setup.strips, haccepts])]
      change Obeys _ (if s.force then some s else (inEffect? f h).or (some s))
      rw [hnow]
      refine ⟨rfl, fun s' hs' => ?_, fun s' hs' => ?_⟩
      · rw [← Option.some.inj hs', hknown]
      · rw [← Option.some.inj hs']
        exact mem_streamNames_withStream r s.stream
    · rw [successes_snoc, List.append_eq_nil_iff] at hnone
      exact absurd hnone.2 (List.cons_ne_nil _ _)
  | unaccepted hknown hhandlers haccepts =>
    refine hr.of_streams ?_ (fun _ => level_withStream) (fun _ => rfl) rfl
    cases hforce : s.force with
    | true =>
      rw [inEffect?_of_strips (by simp [Step.strips, Setup.strips, hforce, hknown, haccepts])]
      exact obeys_none rfl
    | false =>
      have hnone := hr.obeys.eq_none_iff.2 (hhandlers.resolve_left (by simp [hforce]))
      rw [inEffect?_snoc (by simp [Step.strips, Setup.strips, hforce])]
      change Obeys _ (inEffect? f h)
      rw [hnone]
      exact obeys_none rfl

theorem Follows.log (hr : r.Follows f h) (name : String) (level : Level) (message : String) :
    (r.step f (.log name level message)).2.Follows f
      (h ++ [(.log name level message, (r.step f (.log name level message)).1)]) := by
  obtain ⟨hlevel, hhandlers, hnames, htexts⟩ := hr.obeys.emit (f := f) name level message
  have hnow : inEffect? f (h ++ [(.log name level message, (r.step f (.log name level message)).1)]) =
      inEffect? f h := inEffect?_snoc rfl
  refine ⟨hnow ▸ ⟨?_, fun s hs => ?_, fun s hs => ?_⟩, fun hnone => ?_, ?_, ?_, fun stream => ?_⟩
  · rw [hhandlers]
    exact hr.obeys.handlers
  · rw [hlevel]
    exact hr.obeys.level s hs
  · rw [hnames]
    exact hr.obeys.known s hs
  · rw [successes_snoc, List.append_eq_nil_iff] at hnone
    rw [hlevel]
    exact hr.untouched hnone.1
  · exact List.forall_mem_append.2 ⟨hr.refused, List.forall_mem_singleton.2 fun _ => rfl⟩
  · rw [hnames]
    exact hr.nodup
  · rw [htexts, hr.texts, lines_snoc, textOn_append]

theorem Follows.step (hr : r.Follows f h) (x : Step) :
    (r.step f x).2.Follows f (h ++ [(x, (r.step f x).1)]) := by
  cases x with
  | setup s => exact hr.setup s
  | log name level message => exact hr.log name level message

theorem length_run (f : Formatter) (r : Root) (steps : List Step) :
    (r.run f steps).1.length = steps.length := by
  induction steps generalizing r with
  | nil => rfl
  | cons x rest ih =>
    rw [run, List.length_cons, List.length_cons]
    exact congrArg (· + 1) (ih _)

theorem Follows.run (hr : r.Follows f h) (steps : List Step) :
    (r.run f steps).2.Follows f (h ++ steps.zip (r.run f steps).1) := by
  induction steps generalizing r h with
  | nil =>
    rw [List.zip_nil_left, List.append_nil]
    exact hr
  | cons x rest ih =>
    rw [Root.run, List.zip_cons_cons, List.append_cons]
    exact ih (hr.step x)

/-- After any run the root has one handler at most, and it has followed the setup in effect throughout: its
level, stream and layout are those of that setup, and each record was written just as that setup had it. As
long as no failing call takes a handler off, the setup in effect is the last forced one that succeeded, or else
the first one that did. A setup that fails leaves level and texts as they were, and the handler with them unless
it strips the root. -/
theorem run_obeys (f : Formatter) (steps : List Step) :
    let r := (unconfigured.run f steps).2
    let h := steps.zip (unconfigured.run f steps).1
    h.map Prod.fst = steps ∧ r.handlers.length ≤ 1 ∧ r.Follows f h ∧
    (Undisturbed f h → ∀ n, inEffect? f (h.take n) = effective? (successes (h.take n))) ∧
    ∀ s e r', r.step f (.setup s) = (.refused e, r') →
      r'.level = r.level ∧ (∀ stream, r'.text stream = r.text stream) ∧
      r'.handlers = if s.strips f then [] else r.handlers := by
  intro r h
  have hfollows : r.Follows f h := (follows_unconfigured f).run steps
  refine ⟨List.map_fst_zip (length_run f unconfigured steps).ge, ?_, hfollows, fun hh n => ?_,
    fun s e r' => step_refused⟩
  · rw [hfollows.obeys.handlers]
    cases inEffect? f h <;> simp
  · rw [← List.take_append_drop n h] at hh
    exact hh.of_append.inEffect? fun x hx => hfollows.refused x (List.mem_of_mem_take hx)

/-- A layout that is refused before any setup has succeeded disturbs nothing, nor does a level that is none;
the forced setup is in effect from its call on. -/
theorem run_obeys_forced :
    let f := Formatter.percent "now"
    let forced : Setup := ⟨"debug", some "%(message)s", "b", true⟩
    let steps : List Step :=
      [.setup ⟨"INFO", some "plain", "a", true⟩, .setup ⟨"INFO", some "%(name)s", "a", false⟩,
        .log "app" .info "one", .setup forced, .setup ⟨"LOUD", none, "c", true⟩, .log "app" .debug "two"]
    let r := (unconfigured.run f steps).2
    let h := steps.zip (unconfigured.run f steps).1
    Undisturbed f h ∧ inEffect? f h = some forced ∧ r.handlers = [forced.handler] ∧ r.level = .debug ∧
      r.text "a" = "app\n" ∧ r.text "b" = "two\n" := by
  intro f forced steps r h
  have hh : Undisturbed f h := by decide +kernel
  obtain ⟨-, -, hfollows, hagree, -⟩ := run_obeys f steps
  have hnow : inEffect? f h = some forced := by
    have hlast := hagree hh h.length
    rw [List.take_length] at hlast
    exact hlast.trans (by decide +kernel)
  refine ⟨hh, hnow, ?_, ?_, ?_, ?_⟩
  · rw [hfollows.obeys.handlers, hnow]
    rfl
  · have hlevel : forced.level? = some .debug := by decide +kernel
    exact Option.some.inj ((hfollows.obeys.level forced hnow).symm.trans hlevel)
  · rw [hfollows.texts]
    decide +kernel
  · rw [hfollows.texts]
    decide +kernel

/-- A forced setup whose layout is refused leaves no handler behind. -/
example :
    (unconfigured.run (.percent "now")
      [.setup ⟨"INFO", some "%(message)s", "a", false⟩, .setup ⟨"INFO", some "plain", "b", true⟩]).2.handlers =
      [] := by
  decide +kernel

end Root

end TypedScalar.Log
