/-
The page that lists all metrics: a fixed frame around one item a metric, in key order, with the
key, a colon and the value. The five characters that mean something in a page are written as
entities, so a key cannot break out of its item.
-/

import Metering.KeyMap
import Metering.Metric.Basic

namespace Metering.Page

/-- How a character stands in a page. -/
def escapeChar : Char → List Char
  | '&' => "&amp;".toList
  | '<' => "&lt;".toList
  | '>' => "&gt;".toList
  | '"' => "&quot;".toList
  | '\'' => "&#39;".toList
  | character => [character]

/-- How a text stands in a page. -/
def escape (text : String) : String := String.ofList (text.toList.flatMap escapeChar)

/-- What stands before the items. -/
def opening : String := "<!DOCTYPE html>\n<html><head><title>Metrics</title></head><body><ul>\n"

/-- What stands behind the items. -/
def closing : String := "</ul></body></html>\n"

/-- The item of a metric. -/
def item (entry : String × Value) : String :=
  "<li>" ++ escape entry.1 ++ ": " ++ entry.2.display ++ "</li>\n"

/-- The page of all metrics. -/
def render (metrics : KeyMap Value) : String :=
  opening ++ String.join (metrics.toList.map item) ++ closing

end Metering.Page
