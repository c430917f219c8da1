import SchemaSheet.CommandLine.Options

/-!
# What a command line asks for

The words of a command line are requests, one for each switch.  The options of a
command line that is taken follow from its requests alone: of several values for
one switch the last counts, and a switch without a value is either given or not.
-/

namespace SchemaSheet

/-- A switch as the command line gives it, with its value if it has one. -/
structure Request where
  switch : Switch
  value : Option Text
  deriving DecidableEq, Repr

namespace Request

/-- The requests of a command line.  Nothing is asked for behind a switch that
lacks its value. -/
def ofWords : List CommandWord → List Request
  | [] => []
  | .ambiguous :: _ | .malformed :: _ => []
  | .operand _ :: rest | .mark :: rest | .unknown :: rest => ofWords rest
  | .letters switches :: rest => switches.map (⟨·, none⟩) ++ ofWords rest
  | .assigned switch value :: rest => ⟨switch, some value⟩ :: ofWords rest
  | .switch switch :: rest =>
      if switch.takesValue then
        match rest with
        | .operand value :: later => ⟨switch, some value⟩ :: ofWords later
        | _ => []
      else ⟨switch, none⟩ :: ofWords rest

theorem ofWords_switch {switch : Switch} (bare : ¬switch.takesValue = true)
    (rest : List CommandWord) :
    ofWords (.switch switch :: rest) = ⟨switch, none⟩ :: ofWords rest := by
  rw [ofWords.eq_def]
  exact if_neg bare

/-- The last value that is given to a switch. -/
def lastValue? (requests : List Request) (switch : Switch) : Option Text :=
  (requests.filterMap fun request =>
    if request.switch = switch then request.value else none).getLast?

def mentions (requests : List Request) (switch : Switch) : Bool :=
  requests.any fun request => request.switch = switch

theorem lastValue?_append (requests later : List Request) (switch : Switch) :
    lastValue? (requests ++ later) switch
      = (lastValue? later switch).or (lastValue? requests switch) := by
  rw [lastValue?, List.filterMap_append, List.getLast?_append]
  rfl

theorem mentions_append (requests later : List Request) (switch : Switch) :
    mentions (requests ++ later) switch
      = (mentions requests switch || mentions later switch) :=
  List.any_append

end Request

namespace Options

open Request

/-- The options once more requests have been taken. -/
def after (options : Options) (requests : List Request) : Options :=
  { input := (lastValue? requests .input).or options.input
    fromClipboard := options.fromClipboard || mentions requests .fromClipboard
    output := (lastValue? requests .output).or options.output
    toClipboard := options.toClipboard || mentions requests .toClipboard
    titles := options.titles || mentions requests .titles
    noPreview := options.noPreview || mentions requests .noPreview
    settings := (lastValue? requests .settings).or options.settings }

theorem after_nil (options : Options) : options.after [] = options := by
  simp [after, lastValue?, mentions]

theorem after_append (options : Options) (requests later : List Request) :
    options.after (requests ++ later)
      = (options.after requests).after later := by
  simp only [after, lastValue?_append, mentions_append, Option.or_assoc,
    Bool.or_assoc]

theorem after_set (options : Options) (switch : Switch) :
    options.after [⟨switch, .none⟩] = options.set switch := by
  cases switch <;> simp [after, set, lastValue?, mentions]

theorem after_assign (options : Options) (value : Text) {switch : Switch}
    (valued : switch.takesValue = true) :
    options.after [⟨switch, some value⟩] = options.assign value switch := by
  cases switch <;>
    simp_all [after, assign, lastValue?, mentions, Switch.takesValue]

variable {options final : Options} {switches : List Switch}

theorem setAll_eq_ok (taken : options.setAll switches = .ok final) :
    final = options.after (switches.map (⟨·, .none⟩)) := by
  induction switches generalizing options with
  | nil =>
      rw [List.map_nil, after_nil]
      exact (Except.ok.inj taken).symm
  | cons switch rest induction =>
      have onward : (options.set switch).setAll rest = .ok final := by
        unfold setAll at taken
        split at taken
        · next impossible => exact nomatch impossible
        · exact nomatch taken
        · next same =>
            obtain ⟨rfl, rfl⟩ := List.cons.inj same
            split at taken
            · exact nomatch taken
            · exact taken
      rw [List.map_cons, ← List.singleton_append, after_append, after_set]
      exact induction onward

theorem setAll_ne_run (options : Options) (switches : List Switch) :
    options.setAll switches ≠ .error (.run final) := by
  induction switches generalizing options with
  | nil => exact nofun
  | cons switch rest induction =>
      unfold setAll
      split
      · exact nofun
      · exact nofun
      · next same =>
          obtain ⟨rfl, rfl⟩ := List.cons.inj same
          split
          · exact nofun
          · exact induction _

theorem assignOne_eq_ok {switch : Switch} {value : Text}
    (taken : options.assignOne switch value = .ok final) :
    final = options.after [⟨switch, some value⟩] := by
  unfold assignOne at taken
  split at taken
  · next allowed =>
      have valued : switch.takesValue = true :=
        (Bool.and_eq_true_iff.mp allowed).1
      rw [after_assign options value valued]
      exact (Except.ok.inj taken).symm
  · exact nomatch taken

theorem assignOne_ne_run (options : Options) (switch : Switch)
    (value : Text) : options.assignOne switch value ≠ .error (.run final) := by
  unfold assignOne
  split
  · exact nofun
  · exact nofun

/-- The options of a command line that is taken are those that its requests ask
for. -/
theorem take_eq_run {clean : Bool} {words : List CommandWord}
    (taken : take clean options words = .run final) :
    final = options.after (Request.ofWords words) := by
  fun_induction take clean options words with
  | case1 options =>
      rw [Request.ofWords, after_nil]
      exact (Invocation.run.inj taken).symm
  | case2 | case3 | case4 | case14 => exact nomatch taken
  | case5 clean options text rest induction => exact induction taken
  | case6 clean options rest induction => exact induction taken
  | case7 clean options rest induction => exact induction taken
  | case8 clean options switches rest ending ended =>
      exact absurd (taken ▸ ended) (setAll_ne_run options switches)
  | case9 clean options switches rest next set induction =>
      rw [Request.ofWords, after_append, ← setAll_eq_ok set]
      exact induction taken
  | case10 clean options switch value rest ending ended =>
      exact absurd (taken ▸ ended) (assignOne_ne_run options switch value)
  | case11 clean options switch value rest next assigned induction =>
      rw [Request.ofWords, ← List.singleton_append, after_append,
        ← assignOne_eq_ok assigned]
      exact induction taken
  | case12 clean options switch valued value later ending ended =>
      exact absurd (taken ▸ ended) (assignOne_ne_run options switch value)
  | case13 clean options switch valued value later next assigned induction =>
      rw [Request.ofWords, if_pos valued, ← List.singleton_append,
        after_append, ← assignOne_eq_ok assigned]
      exact induction taken
  | case15 clean options switch rest bare ending ended =>
      exact absurd (taken ▸ ended) (setAll_ne_run options [switch])
  | case16 clean options switch rest bare next set induction =>
      have asked : next = options.after [⟨switch, .none⟩] := setAll_eq_ok set
      rw [Request.ofWords_switch bare, ← List.singleton_append, after_append,
        ← asked]
      exact induction taken

/-- The options that requests ask for. -/
def asked (requests : List Request) : Options := none.after requests

end Options

theorem Invocation.eq_asked {arguments : List Text} {options : Options}
    (accepted : Invocation.ofArguments arguments = .run options) :
    options = Options.asked
      (Request.ofWords (CommandWord.ofArguments arguments)) := by
  unfold Invocation.ofArguments at accepted
  simp only at accepted
  split at accepted
  · exact nomatch accepted
  · exact Options.take_eq_run accepted

end SchemaSheet
