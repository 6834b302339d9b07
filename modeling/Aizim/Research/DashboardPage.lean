import Aizim.Framework.PythonJson

/-!
# The page of the dashboard

`dashboard.html`, line by line.  A `Literal` is a line with its characters, so that nothing has to
compute them.
-/

namespace Aizim.Research

/-- A text with its characters. -/
structure Literal where
  text : String
  chars : List Char
  eq : String.ofList chars = text

/-- Lines of a file, each with its end. -/
def unlines (lines : List Literal) : PyText :=
  lines.flatMap fun line => pyText line.chars ++ [.char '\n']

/-- The page up to its title. -/
def headLines : List Literal :=
  [⟨"<!doctype html>", _, rfl⟩,
   ⟨"<html lang=\"en\">", _, rfl⟩,
   ⟨"<head>", _, rfl⟩,
   ⟨"<meta charset=\"utf-8\"><meta name=\"viewport\" content=\"width=device-width,initial-scale=1\">", _, rfl⟩]

set_option maxRecDepth 8000 in
/-- The style of the page. -/
def styleLines : List Literal :=
  [⟨"<style>", _, rfl⟩,
   ⟨":root\x7bfont:15px/1.6 system-ui,sans-serif;color:#192a38;background:#f4f6f7\x7d", _, rfl⟩,
   ⟨"body\x7bmax-width:1200px;margin:auto;padding:32px\x7dheader\x7bdisplay:flex;justify-content:space-between;gap:20px;align-items:center\x7d", _, rfl⟩,
   ⟨"h1\x7bfont-size:32px;letter-spacing:-1px;margin:0\x7dh2\x7bfont-size:21px;margin-top:30px\x7dh3\x7bfont-size:16px;margin:18px 0 8px\x7d", _, rfl⟩,
   ⟨".muted\x7bcolor:#617181\x7d.grid\x7bdisplay:grid;grid-template-columns:repeat(auto-fit,minmax(280px,1fr));gap:16px\x7d", _, rfl⟩,
   ⟨".card\x7bbackground:white;border:1px solid #dbe2e7;border-radius:12px;padding:20px\x7d", _, rfl⟩,
   ⟨"pre\x7bwhite-space:pre-wrap;overflow-wrap:anywhere;background:#f5f7f9;padding:12px;border-radius:6px\x7d", _, rfl⟩,
   ⟨".tag\x7bdisplay:inline-block;padding:3px 9px;border-radius:16px;background:#eef2f5;font-size:12px;margin:0 8px 6px 0\x7d", _, rfl⟩,
   ⟨".verified\x7bbackground:#ddf5e5;color:#17633b\x7d.blocked,.paused\x7bbackground:#fff0d5;color:#885c12\x7d", _, rfl⟩,
   ⟨"table\x7bwidth:100%;border-collapse:collapse;background:white\x7dth,td\x7btext-align:left;padding:10px;border-bottom:1px solid #e0e6eb;vertical-align:top\x7d", _, rfl⟩,
   ⟨"details\x7bmargin-top:10px\x7dsummary\x7bcursor:pointer\x7dp\x7boverflow-wrap:anywhere\x7d.note\x7bborder-left:3px solid #487590;padding-left:15px\x7d", _, rfl⟩,
   ⟨".row\x7bdisplay:flex;flex-wrap:wrap;gap:12px;align-items:center\x7dselect,input,button\x7bfont:inherit;padding:8px 12px;border:1px solid #bbc8d1;border-radius:6px;background:white\x7d", _, rfl⟩,
   ⟨"button\x7bcursor:pointer;color:#255976\x7dbutton:hover\x7bbackground:#edf5fa\x7dbutton:focus-visible,a:focus-visible\x7boutline:3px solid #407c9e;outline-offset:3px\x7d", _, rfl⟩,
   ⟨".empty\x7bcolor:#617181;font-style:italic\x7dsvg\x7bwidth:100%;min-height:100px;background:white;border-radius:12px\x7d", _, rfl⟩,
   ⟨"footer\x7bmargin:30px 0;color:#617181;font-size:12px;overflow-wrap:anywhere\x7d.section\x7bmargin-top:20px\x7d.records\x7bdisplay:grid;gap:10px\x7d.record\x7bborder-left:2px solid #dbe2e7;padding:4px 14px\x7d", _, rfl⟩,
   ⟨"#dossier\x7bscroll-margin-top:20px\x7d#dossier .statement\x7bfont-size:16px\x7d.metrics .card\x7bpadding:14px 20px\x7d.metric\x7bfont-size:25px;font-weight:650;display:block\x7d", _, rfl⟩,
   ⟨".table-wrap\x7boverflow-x:auto\x7da\x7bcolor:#255976\x7dul\x7bpadding-left:22px\x7d.off\x7bdisplay:none\x7d", _, rfl⟩,
   ⟨"@media(max-width:640px)\x7bbody\x7bpadding:16px\x7dheader\x7bdisplay:block\x7d.grid\x7bgrid-template-columns:minmax(0,1fr)\x7dlabel,select,input\x7bmax-width:100%;box-sizing:border-box\x7d.card\x7bmin-width:0;overflow-wrap:anywhere\x7d\x7d", _, rfl⟩,
   ⟨"</style>", _, rfl⟩,
   ⟨"</head>", _, rfl⟩]

set_option maxRecDepth 8000 in
/-- The body of the page up to the snapshot in its script. -/
def bodyLines : List Literal :=
  [⟨"<body>", _, rfl⟩,
   ⟨"<header><div><div class=\"muted\">AIZIM · RESEARCH RECORD</div><h1 id=\"project\">Research</h1></div><span id=\"refresh\" class=\"muted\" role=\"status\"></span></header>", _, rfl⟩,
   ⟨"<p class=\"note\">Lean checks formal validity. Human reviews record meaning, research value, library quality, and exposition separately.</p>", _, rfl⟩,
   ⟨"<div id=\"metrics\" class=\"grid metrics\"></div>", _, rfl⟩,
   ⟨"<h2>Targets and dependencies</h2>", _, rfl⟩,
   ⟨"<div class=\"row\"><label>Filter targets <input id=\"query\" placeholder=\"Title or statement\"></label><label>Status <select id=\"status\"><option value=\"\">All</option><option>pending</option><option>running</option><option>verified</option><option>blocked</option><option>paused</option></select></label></div>", _, rfl⟩,
   ⟨"<div id=\"tasks\" class=\"grid section\"></div>", _, rfl⟩,
   ⟨"<h2>Research notebook</h2>", _, rfl⟩,
   ⟨"<div class=\"row\"><label>Read a target <select id=\"target-picker\"><option value=\"\">Choose a target</option></select></label></div>", _, rfl⟩,
   ⟨"<div id=\"dossier\" class=\"section\" aria-live=\"polite\"></div>", _, rfl⟩,
   ⟨"<h2>Dependency graph</h2><div id=\"graph\"></div>", _, rfl⟩,
   ⟨"<h2>Human contributions and reviews</h2><div id=\"humans\" class=\"grid\"></div>", _, rfl⟩,
   ⟨"<h2>Operator inbox</h2><div id=\"inbox\" class=\"grid\"></div>", _, rfl⟩,
   ⟨"<h2>Research memory</h2><div id=\"memory\" class=\"grid\"></div>", _, rfl⟩,
   ⟨"<h2>Measured usage</h2><div id=\"usage\" class=\"table-wrap\"></div><p id=\"usage-note\" class=\"muted\"></p>", _, rfl⟩,
   ⟨"<h2>Attempts</h2><div id=\"attempts\" class=\"table-wrap\"></div>", _, rfl⟩,
   ⟨"<footer id=\"footer\"></footer>", _, rfl⟩,
   ⟨"<script>", _, rfl⟩]

set_option maxRecDepth 8000 in
/-- The script from the snapshot on: its records. -/
def recordLines : List Literal :=
  [⟨"let state=initial, selected=new URLSearchParams(location.hash.slice(1)).get('target')||'', timer;", _, rfl⟩,
   ⟨"const el=(tag,text,cls)=>\x7bconst n=document.createElement(tag);if(text!==undefined)n.textContent=text;if(cls)n.className=cls;return n\x7d;", _, rfl⟩,
   ⟨"const clear=id=>\x7bconst n=document.getElementById(id);n.replaceChildren();return n\x7d;", _, rfl⟩,
   ⟨"const statusOf=t=>t.paused?'paused':t.status;", _, rfl⟩,
   ⟨"const sameIds=(a=[],b=[])=>\x7bconst right=[...b].sort();return a.length===b.length&&[...a].sort().every((id,i)=>id===right[i])\x7d;", _, rfl⟩,
   ⟨"const currentReview=(review,task)=>review.target_hash===task.target_hash&&sameIds(review.verified_declarations,task.verified_declarations);", _, rfl⟩,
   ⟨"function latestReview(task,kind)\x7breturn state.records.review.filter(r=>r.task_id===task.task_id&&r.kind===kind&&currentReview(r,task)).sort((a,b)=>String(b.created_at||'').localeCompare(String(a.created_at||'')))[0]\x7d", _, rfl⟩,
   ⟨"function selectTarget(id,scroll=true)\x7bselected=id;history.replaceState(null,'','#'+new URLSearchParams(\x7btarget:id\x7d));renderNotebook();document.getElementById('target-picker').value=id;if(scroll)document.getElementById('dossier').scrollIntoView(\x7bbehavior:'smooth'\x7d)\x7d", _, rfl⟩,
   ⟨"function targetLink(id)\x7bconst button=el('button',id);button.type='button';button.addEventListener('click',()=>selectTarget(id));return button\x7d", _, rfl⟩,
   ⟨"function record(entry,task)\x7b", _, rfl⟩,
   ⟨" const box=el('article',undefined,'record');box.append(el('span',entry.role||entry.kind||entry.status,'tag'),el('strong',entry.author||entry.worker_id||entry.id),el('p',entry.body||entry.feedback||''));", _, rfl⟩,
   ⟨" if(entry.verdict)\x7bbox.append(el('p','Review: '+entry.verdict));if(task)box.append(el('small',currentReview(entry,task)?'Applies to the current target and evidence':'Recorded against earlier target or evidence','muted'))\x7d", _, rfl⟩,
   ⟨" if(entry.created_at)box.append(el('p','Recorded: '+entry.created_at,'muted'));", _, rfl⟩,
   ⟨" if(entry.consumed_by)box.append(el('small','Read in '+entry.consumed_by.length+' rounds'));", _, rfl⟩,
   ⟨" return box;", _, rfl⟩,
   ⟨"\x7d", _, rfl⟩,
   ⟨"function cards(id,entries)\x7bconst root=clear(id);if(!entries.length)root.append(el('p','No records yet.','empty'));for(const entry of entries)\x7bconst task=state.records.task.find(t=>t.task_id===entry.task_id),card=record(entry,task);card.classList.add('card');if(task)card.append(targetLink(task.task_id));root.append(card)\x7d\x7d", _, rfl⟩,
   ⟨"function table(id,rows,keys)\x7bconst root=clear(id);if(!rows.length)\x7broot.append(el('p','No records yet.','empty'));return\x7dconst t=el('table'),head=el('thead'),header=el('tr'),body=el('tbody');for(const key of keys)header.append(el('th',key.replaceAll('_',' ')));head.append(header);t.append(head);for(const row of rows)\x7bconst tr=el('tr');for(const key of keys)tr.append(el('td',row[key]===null||row[key]===undefined?'Unknown':String(row[key])));body.append(tr)\x7dt.append(body);root.append(t)\x7d", _, rfl⟩,
   ⟨"function section(parent,title,entries,task)\x7bconst part=el('section');part.append(el('h3',title));if(entries.length)\x7bconst list=el('div',undefined,'records');for(const item of entries)list.append(record(item,task));part.append(list)\x7delse part.append(el('p','No records yet.','empty'));parent.append(part)\x7d", _, rfl⟩,
   ⟨"function references(parent,refs)\x7bconst list=el('ul');for(const ref of refs)\x7bconst item=el('li');try\x7bconst url=new URL(ref);if(!['https:','http:'].includes(url.protocol))throw Error();const a=el('a',ref);a.href=url.href;a.rel='noopener noreferrer';a.target='_blank';item.append(a)\x7dcatch\x7bitem.textContent=ref\x7dlist.append(item)\x7dparent.append(list)\x7d", _, rfl⟩]

set_option maxRecDepth 8000 in
/-- The notebook. -/
def notebookLines : List Literal :=
  [⟨"function renderNotebook()\x7b", _, rfl⟩,
   ⟨" const root=clear('dossier'),r=state?.records,task=r?.task.find(t=>t.task_id===selected);", _, rfl⟩,
   ⟨" if(!task)\x7broot.append(el('p','Choose a target to read its statement, strategy, explanation, and reviews together.','empty'));return\x7d", _, rfl⟩,
   ⟨" const card=el('article',undefined,'card');card.append(el('h2',task.title),el('span','Execution: '+statusOf(task),'tag '+statusOf(task)));", _, rfl⟩,
   ⟨" const semantic=latestReview(task,'semantic_alignment');card.append(el('span','Semantic review: '+(semantic?.verdict||'not recorded'),'tag'));", _, rfl⟩,
   ⟨" card.append(el('h3','Question'),el('pre',task.statement,'statement'),el('p','Formulated by '+task.author),el('p','Imports: '+task.imports.join(', '),'muted'));", _, rfl⟩,
   ⟨" if(task.depends_on.length)\x7bconst deps=el('div',undefined,'row');deps.append(el('span','Depends on:'));for(const id of task.depends_on)deps.append(targetLink(id));card.append(deps)\x7d", _, rfl⟩,
   ⟨" if(task.source_refs.length)\x7bcard.append(el('h3','Sources'));references(card,task.source_refs)\x7d", _, rfl⟩,
   ⟨" const contributions=r.contribution.filter(c=>c.task_id===selected);", _, rfl⟩,
   ⟨" section(card,'Definitions and problem formulation',contributions.filter(c=>['problem_formulation','definitions'].includes(c.role)),task);", _, rfl⟩,
   ⟨" section(card,'Proof strategy and counterexamples',[...contributions.filter(c=>['strategy','counterexample'].includes(c.role)),...r.memory.filter(m=>m.task_id===selected&&['strategy','counterexample','dead_end'].includes(m.kind))],task);", _, rfl⟩,
   ⟨" section(card,'Explanation',contributions.filter(c=>c.role==='exposition'),task);", _, rfl⟩,
   ⟨" section(card,'Formalization, library design, and sources',contributions.filter(c=>['formalization','library_design','source_material','semantic_review'].includes(c.role)),task);", _, rfl⟩,
   ⟨" section(card,'Reviews',r.review.filter(e=>e.task_id===selected),task);", _, rfl⟩,
   ⟨" section(card,'Guidance',r.inbox.filter(e=>e.task_id===selected),task);", _, rfl⟩,
   ⟨" const evidence=el('details');evidence.append(el('summary','Formal evidence and target identity'),el('pre',JSON.stringify(\x7btarget_hash:task.target_hash,verified_declarations:task.verified_declarations,evidence:state.formal_evidence.filter(e=>task.verified_declarations.includes((e.payload||e).declaration_id)),feedback:task.feedback\x7d,null,2)));card.append(evidence);root.append(card);", _, rfl⟩,
   ⟨"\x7d", _, rfl⟩]

set_option maxRecDepth 8000 in
/-- The graph. -/
def graphLines : List Literal :=
  [⟨"function renderGraph()\x7b", _, rfl⟩,
   ⟨" const ns='http://www.w3.org/2000/svg',root=clear('graph'),svg=document.createElementNS(ns,'svg'),nodes=state.records.task;", _, rfl⟩,
   ⟨" const byId=new Map(nodes.map(t=>[t.task_id,t])),levels=new Map(),rows=new Map(),positions=new Map();", _, rfl⟩,
   ⟨" function level(id,seen=new Set())\x7bif(levels.has(id))return levels.get(id);if(seen.has(id))return 0;seen.add(id);const deps=(byId.get(id)?.depends_on||[]).filter(d=>byId.has(d));const value=deps.length?1+Math.max(...deps.map(d=>level(d,new Set(seen)))):0;levels.set(id,value);return value\x7d", _, rfl⟩,
   ⟨" function shape(tag,attrs)\x7bconst n=document.createElementNS(ns,tag);for(const[k,v]of Object.entries(attrs))n.setAttribute(k,String(v));return n\x7d", _, rfl⟩,
   ⟨" for(const task of nodes)\x7bconst depth=level(task.task_id),row=rows.get(depth)||0;rows.set(depth,row+1);positions.set(task.task_id,[30+depth*350,25+row*85])\x7d", _, rfl⟩,
   ⟨" const width=Math.max(720,(Math.max(0,...levels.values())+1)*350+30),height=Math.max(100,...[...rows.values()].map(n=>n*85+20));svg.setAttribute('viewBox',`0 0 $\x7bwidth\x7d $\x7bheight\x7d`);", _, rfl⟩,
   ⟨" const defs=shape('defs',\x7b\x7d),marker=shape('marker',\x7bid:'arrow',viewBox:'0 0 10 10',refX:9,refY:5,markerWidth:6,markerHeight:6,orient:'auto-start-reverse'\x7d);marker.append(shape('path',\x7bd:'M 0 0 L 10 5 L 0 10 z',fill:'#7593a6'\x7d));defs.append(marker);svg.append(defs);", _, rfl⟩,
   ⟨" for(const task of nodes)\x7bconst[x,y]=positions.get(task.task_id);for(const dep of task.depends_on)\x7bconst p=positions.get(dep);if(p)svg.append(shape('line',\x7bx1:p[0]+290,y1:p[1]+25,x2:x-5,y2:y+25,stroke:'#7593a6','stroke-width':2,'marker-end':'url(#arrow)'\x7d))\x7d\x7d", _, rfl⟩,
   ⟨" for(const task of nodes)\x7bconst[x,y]=positions.get(task.task_id),group=shape('g',\x7btabindex:0,role:'button','aria-label':task.task_id\x7d);group.style.cursor='pointer';group.append(shape('rect',\x7bx,y,width:290,height:50,rx:8,fill:task.status==='verified'?'#ddf5e5':'#f2f5f7',stroke:'#ccd8df'\x7d));const label=shape('text',\x7bx:x+12,y:y+31,'font-size':14\x7d);label.textContent=(task.task_id.length>24?task.task_id.slice(0,22)+'…':task.task_id)+' · '+statusOf(task);group.append(label);group.addEventListener('click',()=>selectTarget(task.task_id));group.addEventListener('keydown',event=>\x7bif(event.key==='Enter'||event.key===' ')\x7bevent.preventDefault();selectTarget(task.task_id)\x7d\x7d);svg.append(group)\x7droot.append(svg);", _, rfl⟩,
   ⟨"\x7d", _, rfl⟩]

set_option maxRecDepth 8000 in
/-- The tables. -/
def renderLines : List Literal :=
  [⟨"function render()\x7b", _, rfl⟩,
   ⟨" if(!state)return;const r=state.records;document.getElementById('project').textContent=state.project;document.getElementById('refresh').textContent=state.generated_at;", _, rfl⟩,
   ⟨" const metrics=clear('metrics');for(const[label,value]of [['Targets',r.task.length],['Lean verified',r.task.filter(t=>t.status==='verified').length],['Current semantic accept reviews',r.task.filter(t=>latestReview(t,'semantic_alignment')?.verdict==='accept').length]])\x7bconst card=el('div',undefined,'card');card.append(el('span',value,'metric'),el('span',label,'muted'));metrics.append(card)\x7d", _, rfl⟩,
   ⟨" const root=clear('tasks'),query=document.getElementById('query').value.toLowerCase(),status=document.getElementById('status').value;", _, rfl⟩,
   ⟨" const visible=r.task.filter(t=>(!status||statusOf(t)===status)&&[t.task_id,t.title,t.statement].join(' ').toLowerCase().includes(query));", _, rfl⟩,
   ⟨" if(!visible.length)root.append(el('p','No targets match this filter.','empty'));", _, rfl⟩,
   ⟨" for(const task of visible)\x7bconst card=el('article',undefined,'card');card.id='target-'+task.task_id;card.append(el('span',statusOf(task),'tag '+statusOf(task)),el('strong',task.title),el('pre',task.statement),el('p','Proposed by '+task.author),el('small','Round '+task.rounds+'/'+task.max_rounds+' · Dependencies: '+(task.depends_on.join(', ')||'none')));const button=el('button','Read research record');button.type='button';button.addEventListener('click',()=>selectTarget(task.task_id));const actions=el('p');actions.append(button);card.append(actions);root.append(card)\x7d", _, rfl⟩,
   ⟨" const picker=clear('target-picker');picker.append(el('option','Choose a target'));picker.firstChild.value='';for(const task of r.task)\x7bconst option=el('option',task.title+' · '+task.task_id);option.value=task.task_id;picker.append(option)\x7dpicker.value=selected;", _, rfl⟩,
   ⟨" renderNotebook();renderGraph();cards('humans',[...r.contribution,...r.review]);cards('inbox',r.inbox);cards('memory',r.memory);", _, rfl⟩,
   ⟨" table('usage',state.usage,['model','input_tokens','cached_input_tokens','output_tokens','unknown_stages','known_usage_usd','estimated_usd']);document.getElementById('usage-note').textContent=state.usage_scope+' Prices are operator-supplied estimates, not a bill.';", _, rfl⟩,
   ⟨" table('attempts',r.attempt,['task_id','round','status','feedback']);document.getElementById('footer').textContent='Local private record · Identity: '+state.identity_assurance+' · Record hash: '+state.content_hash;", _, rfl⟩,
   ⟨"\x7d", _, rfl⟩]

set_option maxRecDepth 8000 in
/-- The end of the script and of the page. -/
def refreshLines : List Literal :=
  [⟨"// Preserve open evidence sections while a live snapshot with unchanged content is refreshed.", _, rfl⟩,
   ⟨"async function refresh()\x7btry\x7bconst res=await fetch('/api/snapshot',\x7bcache:'no-store'\x7d);if(!res.ok)throw Error('State temporarily unavailable');const next=await res.json(),changed=state?.content_hash!==next.content_hash;state=next;if(changed)render();else document.getElementById('refresh').textContent=state.generated_at\x7dcatch(error)\x7bdocument.getElementById('refresh').textContent=String(error)\x7dfinally\x7btimer=setTimeout(refresh,document.hidden?10000:3000)\x7d\x7d", _, rfl⟩,
   ⟨"document.getElementById('query').addEventListener('input',render);document.getElementById('status').addEventListener('change',render);", _, rfl⟩,
   ⟨"document.getElementById('target-picker').addEventListener('change',event=>selectTarget(event.target.value,false));", _, rfl⟩,
   ⟨"window.addEventListener('hashchange',()=>\x7bselected=new URLSearchParams(location.hash.slice(1)).get('target')||'';if(state)\x7brenderNotebook();document.getElementById('target-picker').value=selected\x7d\x7d);", _, rfl⟩,
   ⟨"if(initial)render();else refresh();", _, rfl⟩,
   ⟨"</script>", _, rfl⟩,
   ⟨"</body>", _, rfl⟩,
   ⟨"</html>", _, rfl⟩]

/-- The page after the line of its snapshot. -/
def scriptLines : List Literal :=
  recordLines ++ notebookLines ++ graphLines ++ renderLines ++ refreshLines

/-- The title of the template. -/
def titleLine : Literal := ⟨"<title>Aizim Research</title>", _, rfl⟩

/-- The line of the snapshot. -/
def snapshotLine : Literal := ⟨"const initial=__SNAPSHOT__;", _, rfl⟩

/-- `_PAGE` -/
def page : PyText :=
  unlines (headLines ++ titleLine :: (styleLines ++ bodyLines) ++ snapshotLine :: scriptLines)

end Aizim.Research
