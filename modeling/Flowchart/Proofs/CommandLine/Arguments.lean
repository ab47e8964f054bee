import Flowchart.CommandLine.Arguments

/-! Command lines that ask for one chart. There is one for every input, output file and format. -/
namespace Flowchart.CommandLine

structure Asks (arguments : List String) (settings : Settings) : Prop where
  read : readArguments arguments = .ok settings
  once : settings.watch = false

/-- The option that names an output file. A name that looks like a switch stands behind an equals
sign. -/
def outputArguments (path : String) : List String :=
  if path.toList.head? = some '-' then ["-o=" ++ path] else ["-o", path]

/-- A command line for given settings, with the input behind all switches. -/
def chartArguments (input : String) (output : Option String) (format : ChartFormat) :
    List String :=
  ["-f", format.name] ++ output.elim [] outputArguments ++ ["--", input]

def chartUses (output : Option String) (format : ChartFormat) : List Use :=
  ⟨.format, some format.name⟩ :: output.toList.map fun path => ⟨.output, some path⟩

theorem read_format (format : ChartFormat) :
    ["-f", format.name].foldlM Progress.step .start =
      .ok ⟨⟨none, chartUses none format⟩, none, false⟩ := by
  cases format <;> rfl

theorem read_output (path : String) (uses : List Use) :
    (outputArguments path).foldlM Progress.step ⟨⟨none, uses⟩, none, false⟩ =
      .ok ⟨⟨none, uses ++ [⟨.output, some path⟩]⟩, none, false⟩ := by
  rw [outputArguments]
  split
  · rename_i dashed
    obtain ⟨rest, split⟩ := List.head?_eq_some_iff.mp dashed
    have written : ("-o=" ++ path).toList = '-' :: 'o' :: '=' :: '-' :: rest := by
      rw [String.toList_append, split]
      rfl
    have named : String.ofList ('-' :: rest) = path := by rw [← split, String.ofList_toList]
    have step : Progress.step ⟨⟨none, uses⟩, none, false⟩ ("-o=" ++ path) =
        .ok ⟨⟨none, uses ++ [⟨.output, some path⟩]⟩, none, false⟩ := by
      rw [Progress.step, written, ← named]
      rfl
    rw [List.foldlM_cons, step]
    rfl
  · rename_i plain
    have opens : Progress.step ⟨⟨none, uses⟩, none, false⟩ "-o" =
        .ok ⟨⟨none, uses ++ [⟨.output, none⟩]⟩, some .output, false⟩ := rfl
    have fills : Progress.step ⟨⟨none, uses ++ [⟨.output, none⟩]⟩, some .output, false⟩ path =
        .ok ⟨⟨none, uses ++ [⟨.output, some path⟩]⟩, none, false⟩ := by
      rw [Progress.step, if_neg Bool.false_ne_true]
      split
      case h_4 =>
        simp only [Given.fill, List.reverse_append, List.reverse_cons, List.reverse_nil,
          List.nil_append, List.singleton_append, List.reverse_reverse]
      all_goals
        rename_i split
        exact absurd (by rw [split]; rfl) plain
    rw [List.foldlM_cons, opens]
    simp only [bind, Except.bind, List.foldlM_cons, fills]
    rfl

theorem read_input (input : String) (uses : List Use) :
    ["--", input].foldlM Progress.step ⟨⟨none, uses⟩, none, false⟩ =
      .ok ⟨⟨some input, uses⟩, none, true⟩ := rfl

theorem read_settings (input : String) (output : Option String) (format : ChartFormat) :
    settings ⟨⟨some input, chartUses output format⟩, none, true⟩ =
      .ok ⟨input, output, format, false, 200, 0⟩ := by
  have counts : ["200"].mapM readCount = .ok [200] := rfl
  have formats : [format.name].mapM readFormat = .ok [format] := by
    have lower : ChartFormat.lowered format.name = format.name := by cases format <;> decide +kernel
    rw [List.mapM_cons, readFormat, lower]
    cases format <;> rfl
  have quiet : Given.values ⟨some input, chartUses output format⟩ .debounce = ["200"] := by
    cases output <;> rfl
  have named : Given.values ⟨some input, chartUses output format⟩ .format = [format.name] := by
    cases output <;> rfl
  simp only [settings, quiet, named, counts, formats]
  cases output <;> rfl

/-- Every chart can be asked for, whatever the names of the files look like. -/
theorem asks_for_any (input : String) (output : Option String) (format : ChartFormat) :
    Asks (chartArguments input output format) ⟨input, output, format, false, 200, 0⟩ := by
  refine ⟨?_, rfl⟩
  have read : (chartArguments input output format).foldlM Progress.step .start =
      .ok ⟨⟨some input, chartUses output format⟩, none, true⟩ := by
    cases output with
    | none =>
      simp only [chartArguments, Option.elim_none, List.append_nil, List.foldlM_append,
        read_format, bind, Except.bind, read_input]
    | some path =>
      simp only [chartArguments, Option.elim_some, List.foldlM_append, read_format, bind,
        Except.bind, read_output, read_input]
      rfl
  rw [readArguments, read]
  simp only [bind, Except.bind, read_settings]
  rfl

end Flowchart.CommandLine
