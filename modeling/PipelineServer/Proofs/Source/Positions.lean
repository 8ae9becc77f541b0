import PipelineServer.Proofs.Source.Anchors

/-!
Positions that are sent to an editor, read as positions that come from one.

Spans count columns in characters, editors in code units. The two agree as long as no character
beyond the first plane stands on the line in front of the place, apart from the last one before it.
-/

namespace PipelineServer.Source

/-- A message starts, and a declaration has its name, at a place of the text; read back as an
editor position, the start of its range is this place exactly if the line is narrow in front of
it. -/
theorem positions_read_back (source : Path) (text : String) :
    (∀ m ∈ check source text, ∃ f front rest, m = Fault.toMessage source f ∧
      InCode text.toList front rest ∧ f.Begins rest ∧ f.span.start = behind .first front ∧
      (Text.offset? text.toList f.span.toRange.start = some (Text.utf8Width front) ↔
        Text.Narrow front)) ∧
    ∀ d ∈ declarations text.toList, ∃ front rest,
      text.toList = front ++ d.name.toList ++ rest ∧ d.span.start = behind .first front ∧
      (Text.offset? text.toList d.span.toRange.start = some (Text.utf8Width front) ↔
        Text.Narrow front) := by
  constructor
  · intro m hm
    obtain ⟨f, hf, rfl⟩ := List.mem_map.mp hm
    obtain ⟨front, rest, hinCode, hstart, hbegins⟩ := faults_stand text.toList f hf
    refine ⟨f, front, rest, rfl, hinCode, hbegins, hstart, ?_⟩
    rw [Span.toRange, hstart, hinCode.1]
    exact offset?_behind_iff front rest
  · intro d hd
    obtain ⟨front, rest, hsplit, hstart⟩ := declaration_stands hd
    refine ⟨front, rest, hsplit, hstart, ?_⟩
    rw [Span.toRange, hstart, hsplit, List.append_assoc]
    exact offset?_behind_iff front _

namespace PositionsWitness

def source : Path := .ofText "/w/a.nf"

/-- A brace behind two wide characters. -/
def stray : Fault := .unexpected '\x7d' ⟨1, 3⟩

/-- A name behind a type with two wide characters. -/
def typed : Declaration :=
  ⟨"m", .var, ⟨⟨1, 11⟩, ⟨1, 12⟩⟩, none, some "Map<😀, 😀>"⟩

/-- Behind two wide characters, a brace is read back as the second of them, and a name as the end of
the type in front of it. -/
theorem wide_characters_shift :
    check source "😀😀\x7d" = [stray.toMessage source] ∧
      stray.span.start = behind .first "😀😀".toList ∧
      Text.offset? "😀😀\x7d".toList stray.span.toRange.start =
        some (Text.utf8Width "😀".toList) ∧
      Text.utf8Width "😀".toList ≠ Text.utf8Width "😀😀".toList ∧
      declarations "Map<😀, 😀> m".toList = [typed] ∧
      Text.offset? "Map<😀, 😀> m".toList typed.span.toRange.start =
        some (Text.utf8Width "Map<😀, 😀".toList) ∧
      "Map<😀, 😀> m".toList = "Map<😀, 😀".toList ++ "> m".toList := by
  decide +kernel

/-- Wide characters behind the name, on another line and right in front of the brace. -/
def harmless : String := "int x = 1 // 😀😀\n😀\x7d"

def brace : Fault := .unexpected '\x7d' ⟨2, 2⟩

def name : Declaration := ⟨"x", .var, ⟨⟨1, 5⟩, ⟨1, 6⟩⟩, none, some "int"⟩

theorem positions_read_back_harmless :
    (brace.toMessage source ∈ check source harmless ∧
      ∃ f front rest, brace.toMessage source = Fault.toMessage source f ∧
        InCode harmless.toList front rest ∧ f.Begins rest ∧ f.span.start = behind .first front ∧
        (Text.offset? harmless.toList f.span.toRange.start = some (Text.utf8Width front) ↔
          Text.Narrow front)) ∧
    name ∈ declarations harmless.toList ∧
      ∃ front rest, harmless.toList = front ++ name.name.toList ++ rest ∧
        name.span.start = behind .first front ∧
        (Text.offset? harmless.toList name.span.toRange.start = some (Text.utf8Width front) ↔
          Text.Narrow front) := by
  have hreported : brace.toMessage source ∈ check source harmless := by decide +kernel
  have hdeclared : name ∈ declarations harmless.toList := by decide +kernel
  obtain ⟨hmessages, hnames⟩ := positions_read_back source harmless
  exact ⟨⟨hreported, hmessages _ hreported⟩, hdeclared, hnames name hdeclared⟩

end PositionsWitness

end PipelineServer.Source
