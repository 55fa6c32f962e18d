/-!
# The embedded scripts

The template library in the language of its templates, line by line: the functions that compiled
templates use, and the two functions that the host calls.  The scripts are loaded in this order.

* `embeddedScripts` — the scripts with their names.
* `librarySource` — the library as one text.
-/

namespace ScriptHost.Template

/-- Lines as a text, each with its line feed. -/
def ofLines (lines : List String) : String := String.join (lines.map (· ++ "\n"))

/-- The script that defines the template function, the helpers and the delimiters. -/
def coreScript : String := ofLines [
  "//     Template subset of Underscore.js",
  "//     (c) 2009-2012 Jeremy Ashkenas, DocumentCloud Inc.",
  "//     Underscore may be freely distributed under the MIT license.",
  "",
  "(function() \x7b",
  "  var root = this;",
  "",
  "  var _ = function(obj) \x7b return obj; \x7d;",
  "  root._ = _;",
  "",
  "  var hasOwn = Object.prototype.hasOwnProperty;",
  "",
  "  // Fill in undefined properties of `obj` from the given defaults.",
  "  _.defaults = function(obj) \x7b",
  "    for (var i = 1; i < arguments.length; i++) \x7b",
  "      var source = arguments[i];",
  "      if (!source) continue;",
  "      for (var prop in source) \x7b",
  "        if (hasOwn.call(source, prop) && obj[prop] == null) obj[prop] = source[prop];",
  "      \x7d",
  "    \x7d",
  "    return obj;",
  "  \x7d;",
  "",
  "  var escapeMap = \x7b",
  "    '&': '&amp;',",
  "    '<': '&lt;',",
  "    '>': '&gt;',",
  "    '\"': '&quot;',",
  "    \"'\": '&#x27;',",
  "    '/': '&#x2F;'",
  "  \x7d;",
  "",
  "  _.escape = function(string) \x7b",
  "    if (string == null) return '';",
  "    return ('' + string).replace(/[&<>\"'\\/]/g, function(match) \x7b",
  "      return escapeMap[match];",
  "    \x7d);",
  "  \x7d;",
  "",
  "  // By default, ERB-style template delimiters.",
  "  _.templateSettings = \x7b",
  "    evaluate    : /<%([\\s\\S]+?)%>/g,",
  "    interpolate : /<%=([\\s\\S]+?)%>/g,",
  "    escape      : /<%-([\\s\\S]+?)%>/g",
  "  \x7d;",
  "",
  "  // Matches nothing; stands in for a delimiter that is switched off.",
  "  var noMatch = /(.)^/;",
  "",
  "  var escapes = \x7b",
  "    \"'\":      \"'\",",
  "    '\\\\':     '\\\\',",
  "    '\\r':     'r',",
  "    '\\n':     'n',",
  "    '\\t':     't',",
  "    '\\u2028': 'u2028',",
  "    '\\u2029': 'u2029'",
  "  \x7d;",
  "",
  "  var escaper = /\\\\|'|\\r|\\n|\\t|\\u2028|\\u2029/g;",
  "",
  "  // Compile `text` into a function.  With `data` the function is applied at",
  "  // once and the rendered string returned.  The generated function body is",
  "  // available as `.source`.",
  "  _.template = function(text, data, settings) \x7b",
  "    settings = _.defaults(\x7b\x7d, settings, _.templateSettings);",
  "",
  "    var matcher = new RegExp([",
  "      (settings.escape || noMatch).source,",
  "      (settings.interpolate || noMatch).source,",
  "      (settings.evaluate || noMatch).source",
  "    ].join('|') + '|$', 'g');",
  "",
  "    var index = 0;",
  "    var source = \"__p+='\";",
  "    text.replace(matcher, function(match, escape, interpolate, evaluate, offset) \x7b",
  "      source += text.slice(index, offset)",
  "        .replace(escaper, function(match) \x7b return '\\\\' + escapes[match]; \x7d);",
  "",
  "      if (escape) \x7b",
  "        source += \"'+\\n((__t=(\" + escape + \"))==null?'':_.escape(__t))+\\n'\";",
  "      \x7d",
  "      if (interpolate) \x7b",
  "        source += \"'+\\n((__t=(\" + interpolate + \"))==null?'':__t)+\\n'\";",
  "      \x7d",
  "      if (evaluate) \x7b",
  "        source += \"';\\n\" + evaluate + \"\\n__p+='\";",
  "      \x7d",
  "      index = offset + match.length;",
  "      return match;",
  "    \x7d);",
  "    source += \"';\\n\";",
  "",
  "    if (!settings.variable) source = 'with(obj||\x7b\x7d)\x7b\\n' + source + '\x7d\\n';",
  "",
  "    source = \"var __t,__p='',__j=Array.prototype.join,\" +",
  "      \"print=function()\x7b__p+=__j.call(arguments,'');\x7d;\\n\" +",
  "      source + \"return __p;\\n\";",
  "",
  "    var render;",
  "    try \x7b",
  "      render = new Function(settings.variable || 'obj', '_', source);",
  "    \x7d catch (e) \x7b",
  "      e.source = source;",
  "      throw e;",
  "    \x7d",
  "",
  "    if (data) return render(data, _);",
  "    var template = function(data) \x7b",
  "      return render.call(this, data, _);",
  "    \x7d;",
  "",
  "    template.source = 'function(' + (settings.variable || 'obj') + ')\x7b\\n' + source + '\x7d';",
  "",
  "    return template;",
  "  \x7d;",
  "\x7d).call(this);"]

/-- The script that defines what the host calls. -/
def adapterScript : String := ofLines [
  "// Precompilation entry points over `_.template`.",
  "",
  "// Generated source of the template function for `text`.",
  "var compile = function(text) \x7b",
  "  return _.template(text).source;",
  "\x7d;",
  "",
  "// Replace template delimiters.  Each of `interpolate`, `evaluate` and",
  "// `escape` is a regular expression source; missing or empty entries keep",
  "// the current delimiter.",
  "var setTemplateSettings = function(settings) \x7b",
  "  if (!settings) return;",
  "  var keys = ['interpolate', 'evaluate', 'escape'];",
  "  for (var i = 0; i < keys.length; i++) \x7b",
  "    var pattern = settings[keys[i]];",
  "    if (pattern) _.templateSettings[keys[i]] = new RegExp(pattern, 'g');",
  "  \x7d",
  "\x7d;"]

/-- The embedded scripts, in the order in which they are loaded. -/
def embeddedScripts : List (String × String) :=
  [("underscore.js", coreScript), ("underscore.compile.js", adapterScript)]

/-- The script of a name. -/
def embeddedScript? (name : String) : Option String := embeddedScripts.lookup name

/-- The library as one text. -/
def librarySource : String := String.join (embeddedScripts.map (·.2))

end ScriptHost.Template
