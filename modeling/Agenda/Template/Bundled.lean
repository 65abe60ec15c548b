import Agenda.Text.Basic

/-!
# Bundled templates

The templates that are used when none is given, line by line. The braces are written by their codes.
-/

namespace Agenda.Template

def ofLines (lines : List String) : Text := Text.unlines (lines.map String.toList)

def calendar : Text := ofLines [
  "\\documentclass[tikz, border=5mm]\x7bstandalone\x7d",
  "",
  "\\usepackage[utf8]\x7binputenc\x7d",
  "\\usepackage\x7btikz\x7d",
  "",
  "\\tikzset\x7b",
  "    event/.style 2 args=\x7b",
  "        anchor=north west,",
  "        rectangle,",
  "        draw,",
  "        rounded corners=2pt,",
  "        minimum width=1cm,",
  "        text width=0.9cm,",
  "        minimum height=#1 cm,",
  "        align=center,",
  "        font=\\tiny,",
  "    \x7d,",
  "    talk/.style 2 args=\x7bevent=\x7b#1\x7d\x7b#2\x7d, fill=blue!15\x7d,",
  "    meal/.style 2 args=\x7bevent=\x7b#1\x7d\x7b#2\x7d, fill=orange!25\x7d,",
  "    break/.style 2 args=\x7bevent=\x7b#1\x7d\x7b#2\x7d, fill=green!15\x7d,",
  "    fun/.style 2 args=\x7bevent=\x7b#1\x7d\x7b#2\x7d, fill=purple!15\x7d,",
  "    transport/.style 2 args=\x7bevent=\x7b#1\x7d\x7b#2\x7d, fill=gray!20\x7d,",
  "\x7d",
  "",
  "\\begin\x7bdocument\x7d",
  "\\begin\x7btikzpicture\x7d[yscale=-1, x=3cm, y=1cm]",
  "\x7b\x7b CALENDAR \x7d\x7d",
  "\\end\x7btikzpicture\x7d",
  "\\end\x7bdocument\x7d",
  ""]

/-- The template of a page with a column for every day. -/
def page : Text := ofLines [
  "<!DOCTYPE html>",
  "<html>",
  "<head>",
  "    <meta charset=\"UTF-8\">",
  "    <title>Timetable</title>",
  "    <style>",
  "        * \x7b box-sizing: border-box; \x7d",
  "",
  "        body \x7b",
  "            font-family: 'Segoe UI', Tahoma, Geneva, Verdana, sans-serif;",
  "            margin: 0; padding: 15px;",
  "            background-color: #f5f7fa; color: #333;",
  "        \x7d",
  "",
  "        .calendar \x7b display: flex; gap: 15px; align-items: stretch; \x7d",
  "",
  "        .day \x7b",
  "            flex: 1; min-height: 80vh;",
  "            background: white; border-radius: 8px; padding: 10px;",
  "            box-shadow: 0 2px 10px rgba(0,0,0,0.1);",
  "            display: flex; flex-direction: column;",
  "        \x7d",
  "",
  "        .day h2 \x7b margin: 0 0 10px 0; font-size: 1.1em; color: #2c3e50; \x7d",
  "",
  "        .event \x7b",
  "            border-radius: 4px; padding: 4px 6px; margin: 2px 0;",
  "            overflow: hidden; font-size: 0.85em;",
  "        \x7d",
  "",
  "        .event .abstract \x7b display: none; \x7d",
  "        .event:hover .abstract \x7b display: block; \x7d",
  "",
  "        /* CSS klase za tipove dogadjaja */",
  "        .talk \x7b background-color: #e3f2fd; color: #1976d2; \x7d",
  "        .meal \x7b background-color: #fff3e0; color: #f57c00; \x7d",
  "        .break \x7b background-color: #e8f5e8; color: #388e3c; \x7d",
  "        .fun \x7b background-color: #f3e5f5; color: #7b1fa2; \x7d",
  "        .transport \x7b background-color: #eceff1; color: #455a64; \x7d",
  "    </style>",
  "</head>",
  "<body>",
  "<div class=\"calendar\">",
  "\x7b\x7b CALENDAR \x7d\x7d",
  "</div>",
  "</body>",
  "</html>",
  ""]

def booklet : Text := ofLines [
  "\\documentclass[a4paper, 11pt]\x7barticle\x7d",
  "",
  "\\usepackage[utf8]\x7binputenc\x7d",
  "\\usepackage[T1]\x7bfontenc\x7d",
  "\\usepackage[french, english]\x7bbabel\x7d",
  "",
  "% Makroi za jezik predavanja (\\fra, \\eng)",
  "\\newcommand\x7b\\fra\x7d\x7b[FR]\x7d",
  "\\newcommand\x7b\\eng\x7d\x7b[EN]\x7d",
  "",
  "\\title\x7bAbstracts\x7d",
  "\\date\x7b \x7b\x7b BEGIN_DATE \x7d\x7d -- \x7b\x7b END_DATE \x7d\x7d \x7d",
  "",
  "\\begin\x7bdocument\x7d",
  "\\maketitle",
  "",
  "\x7b\x7b ABSTRACTS \x7d\x7d",
  "",
  "\\end\x7bdocument\x7d",
  ""]

def bundled : List (Text × Text) :=
  [("template_tikz.tex", calendar), ("template.html", page), ("template_abstex.tex", booklet)]

end Agenda.Template
