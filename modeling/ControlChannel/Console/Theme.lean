import ControlChannel.Console.Style

/-!
# Named styles

Some styles have names, so that a tag can ask for what a text is instead of how it looks.

* `Theme.table` — the names, each with the words of its style;
* `Theme.style` — the style that a tag asks for.  **What neither is a name nor writes a style
  changes nothing.**
-/

namespace ControlChannel

namespace Theme

/-- The names of styles, each with the words of its style. -/
def table : String :=
  "none none; reset not bold not dim not italic not underline not blink not blink2 not reverse not
  conceal not strike default on default; bright not dim; strong bold; code bold reverse; emphasize
  italic; live.ellipsis bold red; layout.tree.row not dim red; layout.tree.column not dim blue;
  logging.keyword bold yellow; logging.level.notset dim; logging.level.debug green;
  logging.level.info blue; logging.level.warning red; logging.level.error bold red;
  logging.level.critical bold reverse red; log.level none; log.time dim cyan; log.message none;
  log.path dim; repr.ellipsis yellow; repr.indent dim green; repr.error bold red; repr.str not
  bold not italic green; repr.brace bold; repr.comma bold; repr.ipv4 bold bright_green; repr.ipv6
  bold bright_green; repr.eui48 bold bright_green; repr.eui64 bold bright_green; repr.tag_start
  bold; repr.tag_name bold bright_magenta; repr.tag_contents default; repr.tag_end bold;
  repr.attrib_name not italic yellow; repr.attrib_equal bold; repr.attrib_value not italic
  magenta; repr.number bold not italic cyan; repr.number_complex bold not italic cyan;
  repr.bool_true italic bright_green; repr.bool_false italic bright_red; repr.none italic magenta;
  repr.url not bold not italic underline bright_blue; repr.uuid not bold bright_yellow; repr.call
  bold magenta; repr.path magenta; repr.filename bright_magenta; rule.line bright_green; rule.text
  none; json.brace bold; json.bool_true italic bright_green; json.bool_false italic bright_red;
  json.null italic magenta; json.number bold not italic cyan; json.str not bold not italic green;
  json.key bold blue; prompt none; prompt.choices bold magenta; prompt.default bold cyan;
  prompt.invalid red; prompt.invalid.choice red; table.header bold; table.footer bold; table.cell
  none; table.title italic; table.caption dim italic; bar.back grey23; bar.complete
  rgb(249,38,114); bar.finished rgb(114,156,31); bar.pulse rgb(249,38,114); progress.description
  none; progress.filesize green; progress.filesize.total green; progress.download green;
  progress.elapsed yellow; progress.percentage magenta; progress.remaining cyan;
  progress.data.speed red; progress.spinner green; status.spinner green; tree none; tree.line
  none; iso8601.date blue; iso8601.time magenta; iso8601.timezone yellow"

/-- The names of styles, with the words of the styles. -/
def entries : List (Text × Text) :=
  (Text.splitOn ';' table).flatMap fun entry =>
    match Text.words entry with
    | [] => []
    | name :: words => [(name, Text.joined " " words)]

/-- The style that a tag asks for. -/
def style (tag : Text) : Except Numeral.Fault Style :=
  (Style.read? ((entries.lookup tag).getD tag)).map (·.getD {})

end Theme

end ControlChannel
