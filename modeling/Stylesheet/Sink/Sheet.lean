import Stylesheet.Sink.Host

/-!
# Sheets in memory

A sheet keeps the rule texts that it was given, each once and in the order in which they first came. As a sink it takes everything.
-/

namespace Stylesheet

abbrev Sheet := List Text

namespace Sheet

def add (text : Text) (sheet : Sheet) : Sheet := if sheet.contains text then sheet else sheet ++ [text]

/-- All texts, a line feed between two. -/
def content (sheet : Sheet) : Text := Text.join ['\n'] sheet

/-- One sheet behind every sink. -/
def host : Host Sheet where
  deliver _ text sheet := (.ok (), sheet.add text)
  release _ _ := (.ok (), [])

end Sheet

end Stylesheet
